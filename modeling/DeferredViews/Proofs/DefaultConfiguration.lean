import DeferredViews.Config.Default
import DeferredViews.Config.Load
import DeferredViews.Proofs.Encoding
import DeferredViews.Proofs.References

/-!
# What the default configuration says

The text of the default configuration is read as data without references, in which every setting
has the value that holds without a configuration. So loading it from a file, in any environment,
comes to the default settings.
-/
namespace DeferredViews.Config

open Files

theorem toList_defaultText :
    defaultText.toList = defaultLines.flatMap fun l => l.toList ++ ['\n'] := by
  simp [defaultText, String.toList_join, List.flatMap_map]

/-- What the default configuration says. -/
def defaultData : Value :=
  .dict
    [(.str "views", .list [.str "views"]), (.str "view_options", .null), (.str "cache", .bool false),
      (.str "partials", .dict [(.str "extensions", .list [.str "html", .str "hbs"])]),
      (.str "render", .dict [(.str "autoescape", .bool true), (.str "async_timeout", .null)])]

/-- The characters of literals, each given by its own. -/
theorem flatMap_toList_of_forall₂ {ls : List String} {cs : List (List Char)}
    (h : List.Forall₂ (fun l c => l = String.ofList c) ls cs) :
    (ls.flatMap fun l => l.toList ++ ['\n']) = cs.flatMap (· ++ ['\n']) := by
  induction h with
  | nil => rfl
  | cons hl _ ih => rw [List.flatMap_cons, List.flatMap_cons, ih, hl, String.toList_ofList]

theorem read_defaultText_shape :
    (match Yaml.read defaultText with
      | .ok (.dict
          [(.str "views", .list [.str "views"]), (.str "view_options", .null),
            (.str "cache", .bool false),
            (.str "partials", .dict [(.str "extensions", .list [.str "html", .str "hbs"])]),
            (.str "render", .dict [(.str "autoescape", .bool true), (.str "async_timeout", .null)])])
        => true
      | _ => false) = true := by
  -- the literals are opened one by one: their characters are slow to compute from their bytes
  rw [Yaml.read, toList_defaultText, flatMap_toList_of_forall₂ (by repeat' constructor)]
  decide +kernel

theorem read_defaultText : Yaml.read defaultText = .ok defaultData := by
  have hread := read_defaultText_shape
  split at hread
  · next h => exact h
  · cases hread

/-- Line ends that are unified already are read in the same way. -/
theorem read_unifyLineEnds (s : String) :
    Yaml.read (String.ofList (Text.unifyLineEnds s.toList)) = Yaml.read s := by
  rw [Yaml.read, Yaml.read, String.toList_ofList,
    Text.unifyLineEnds_of_not_mem (Text.cr_not_mem_unifyLineEnds s.toList)]

theorem parts_of_not_mem {s : List Char} (h : '$' ∉ s) : parts s = s.map .plain := by
  induction s with
  | nil => rw [parts, List.map_nil]
  | cons c s ih =>
    rw [parts, ih fun hs => h (List.mem_cons_of_mem c hs), List.map_cons]
    rintro rest rfl
    exact fun _ => h List.mem_cons_self

/-- A text without the sign of a reference is the same in every environment. -/
theorem resolveText_of_not_mem (env : List (String × String)) {s : String} (h : '$' ∉ s.toList) :
    resolveText env s = .ok s := by
  have hnames : namesIn s = [] := by
    rw [namesIn, parts_of_not_mem h, List.filterMap_map, List.filterMap_eq_nil_iff]
    exact fun _ _ => rfl
  rw [resolveText_eq, hnames, filledIn_of_no_names env hnames]
  rfl

theorem resolveValue_defaultData (env : List (String × String)) :
    resolveValue env defaultData = .ok defaultData := by
  have hplain : ∀ s ∈ ["views", "html", "hbs"], resolveText env s = .ok s := by
    intro s hs
    have hnone : ∀ s ∈ ["views", "html", "hbs"], '$' ∉ s.toList := by simp
    exact resolveText_of_not_mem env (hnone s hs)
  simp only [defaultData, resolveValue, resolveEntries, resolveItems, hplain, List.mem_cons, true_or,
    or_true]
  rfl

theorem dataOf_written {t : Tree} {p : Path} {s : String} (h : t.read p = .ok (Text.encodeUtf8 s.toList)) :
    dataOf t p = (Yaml.read s).map fun v => View.orEmpty (some v) := by
  rw [dataOf, Tree.readText_of_read h]
  dsimp only
  rw [read_unifyLineEnds]
  rfl

/-- The default configuration says what holds without any. -/
theorem loadFrom_default {t : Tree} (env : List (String × String)) {p : Path}
    (h : t.read p = .ok (Text.encodeUtf8 defaultText.toList)) :
    loadFrom t env p = .ok ⟨{}, some p⟩ := by
  rw [loadFrom, dataOf_written h, read_defaultText]
  show (do .ok ⟨← Settings.ofValue env defaultData, some p⟩ : Except Fault Loaded) = _
  rw [Settings.ofValue, resolveValue_defaultData]
  rfl

end DeferredViews.Config
