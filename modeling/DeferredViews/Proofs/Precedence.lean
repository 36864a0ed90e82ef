import DeferredViews.CommandLine.Program
import DeferredViews.Proofs.Locals
import DeferredViews.Proofs.Parts
import Mathlib.Data.List.Basic

/-!
# Which setting counts

The layout of a page, the roots for its views and whether templates are kept can be told on the
command line, in the locals and in the configuration. What is told on the command line counts
before the locals, and these before the configuration, down to the render that the command starts.
-/
namespace DeferredViews

/-! ## Paths written as texts -/

namespace Text

variable {sep : Char → Bool} {c : Char} {piece : List Char}

theorem splitOn_piece (h : ∀ d ∈ piece, sep d = false) : splitOn sep piece = [piece] := by
  induction piece with
  | nil => rfl
  | cons d piece ih =>
    rw [splitOn, h d List.mem_cons_self, ih fun e he => h e (List.mem_cons_of_mem _ he)]
    rfl

theorem splitOn_append (h : ∀ d ∈ piece, sep d = false) (hc : sep c = true) (rest : List Char) :
    splitOn sep (piece ++ c :: rest) = piece :: splitOn sep rest := by
  induction piece with
  | nil => rw [List.nil_append, splitOn, if_pos hc]
  | cons d piece ih =>
    have hrest := ih fun e he => h e (List.mem_cons_of_mem _ he)
    rw [List.cons_append, splitOn, h d List.mem_cons_self, hrest]
    rfl

theorem splitOn_intercalate {pieces : List (List Char)} (hne : pieces ≠ [])
    (h : ∀ p ∈ pieces, ∀ d ∈ p, sep d = false) (hc : sep c = true) :
    splitOn sep ([c].intercalate pieces) = pieces := by
  induction pieces with
  | nil => exact absurd rfl hne
  | cons p pieces ih =>
    have hp := h p List.mem_cons_self
    cases pieces with
    | nil => simpa using splitOn_piece hp
    | cons q more =>
      have hrest := ih (List.cons_ne_nil q more) fun x hx => h x (List.mem_cons_of_mem _ hx)
      have hjoin : [c].intercalate (p :: q :: more) = p ++ c :: [c].intercalate (q :: more) := by
        simp [List.intercalate]
      rw [hjoin, splitOn_append hp hc, hrest]

theorem not_sep_of_mem_splitOn {s : List Char} (h : piece ∈ splitOn sep s) :
    ∀ d ∈ piece, sep d = false := by
  induction s generalizing piece with
  | nil =>
    obtain rfl : piece = [] := by simpa [splitOn] using h
    simp
  | cons e s ih =>
    rw [splitOn] at h
    split at h
    · rcases List.mem_cons.mp h with rfl | h
      · simp
      · exact ih h
    · next he =>
      split at h
      · obtain rfl := List.mem_singleton.mp h
        simpa using he
      · next first more hsplit =>
        rcases List.mem_cons.mp h with rfl | h
        · have hfirst : first ∈ splitOn sep s := hsplit ▸ List.mem_cons_self
          simpa [he] using ih hfirst
        · exact ih (hsplit ▸ List.mem_cons_of_mem _ h)

end Text

namespace Files.Path

open Text

/-- The names in a text. -/
def namesIn (s : List Char) : List String :=
  (splitOn (· == '/') s).filterMap fun n =>
    if n = [] ∨ n = ['.'] then none else some (String.ofList n)

/-- A name that says something: no slash parts it, and it is neither empty nor a point. -/
def IsName (n : String) : Prop := '/' ∉ n.toList ∧ n.toList ≠ [] ∧ n.toList ≠ ['.']

theorem isName_of_mem_ofText {s n : String} (h : n ∈ (ofText s).names) : IsName n := by
  obtain ⟨piece, hpiece, hn⟩ := List.mem_filterMap.mp h
  split at hn
  · cases hn
  · next hplain =>
    obtain rfl := Option.some.inj hn
    obtain ⟨hempty, hpoint⟩ := not_or.mp hplain
    have hslash : '/' ∉ piece := fun hmem => by simpa using not_sep_of_mem_splitOn hpiece _ hmem
    exact ⟨by simpa using hslash, by simpa using hempty, by simpa using hpoint⟩

theorem namesIn_intercalate {names : List String} (h : ∀ n ∈ names, IsName n) :
    namesIn (("/" : String).intercalate names).toList = names := by
  cases names with
  | nil => rfl
  | cons n more =>
    have hsplit : splitOn (· == '/') (("/" : String).intercalate (n :: more)).toList =
        (n :: more).map String.toList := by
      rw [String.toList_intercalate]
      refine splitOn_intercalate (c := '/') (by simp) ?_ rfl
      intro p hp d hd
      obtain ⟨m, hm, rfl⟩ := List.mem_map.mp hp
      have hne : d ≠ '/' := by
        rintro rfl
        exact (h m hm).1 hd
      simpa using hne
    rw [namesIn, hsplit, List.filterMap_map]
    refine (List.filterMap_congr fun m hm => ?_).trans (List.filterMap_some (l := n :: more))
    obtain ⟨-, hempty, hpoint⟩ := h m hm
    simp [hempty, hpoint]

theorem head_intercalate {names : List String} (h : ∀ n ∈ names, IsName n) :
    (("/" : String).intercalate names).toList.head? ≠ some '/' := by
  cases names with
  | nil => simp
  | cons n more =>
    obtain ⟨hslash, hempty, -⟩ := h n List.mem_cons_self
    have hfirst : (("/" : String).intercalate (n :: more)).toList.head? = n.toList.head? := by
      rw [String.toList_intercalate]
      cases more <;> cases hn : n.toList <;> simp_all [List.intercalate]
    rw [hfirst]
    intro hhead
    exact hslash (List.mem_of_head? hhead)

theorem rootOf_append {s : List Char} (h : s.head? ≠ some '/') (root : Root) :
    rootOf (root.text.toList ++ s) = root := by
  cases s with
  | nil => cases root <;> decide
  | cons c s =>
    have hc : c ≠ '/' := by simpa using h
    cases root <;> simp [rootOf, Root.text, hc]

theorem namesIn_append (root : Root) (s : List Char) : namesIn (root.text.toList ++ s) = namesIn s := by
  cases root <;> rfl

/-- A path that was read from a text is read again from its own text. -/
theorem ofText_text (s : String) : ofText (ofText s).text = ofText s := by
  have hnames : ∀ n ∈ (ofText s).names, IsName n := fun n hn => isName_of_mem_ofText hn
  have hof : ∀ t : String, ofText t = ⟨rootOf t.toList, namesIn t.toList⟩ := fun _ => rfl
  generalize ofText s = p at hnames
  rw [hof, text]
  split
  · next hpoint =>
    obtain ⟨root, names⟩ := p
    obtain ⟨rfl, rfl⟩ := hpoint
    decide
  · have hread := namesIn_intercalate hnames
    have hroot := rootOf_append (head_intercalate hnames) p.root
    rw [String.toList_append, hroot, namesIn_append, hread]

end Files.Path

theorem ok_of_bind {ε α β : Type} {x : Except ε α} {f : α → Except ε β} {b : β}
    (h : (x >>= f) = .ok b) : ∃ a, x = .ok a ∧ f a = .ok b := by
  cases x with
  | error e => cases h
  | ok a => exact ⟨a, rfl, h⟩

theorem Value.not_equals_null {v : Value} (h : v.truthy = true) : v.equals .null = false := by
  cases v <;> simp_all [Value.equals, Value.truthy, Value.numeric?, Value.text?]

/-! ## What a configuration says -/

namespace Config

theorem field?_dict (es : List (Value × Value)) (name : String) :
    field? (.dict es) name = .ok (Value.find? es (.str name)) := by
  have hmember : hasField (.dict es) name = .ok (Value.find? es (.str name)).isSome := rfl
  rw [field?, hmember]
  cases hfind : Value.find? es (.str name) with
  | none => rfl
  | some v =>
    show (do .ok (some (← field (.dict es) name))) = _
    rw [field, hfind]
    rfl

/-- What a value holds under a name. Only mappings hold something under a name. -/
def inside? (v : Value) (name : String) : Option Value :=
  match v with
  | .dict es => Value.find? es (.str name)
  | _ => none

/-- The layout that a configuration names or rules out, if it says anything about it. -/
def layoutIn (config : List (Value × Value)) : Option Value :=
  (Value.find? config (.str "view_options")).bind (inside? · "layout")

/-- The view roots that a value gives: a text is one root, a false value gives none. -/
def rootsIn (v : Value) : List String :=
  match v.text? with
  | some s => [s]
  | none => if v.truthy then (v.items.toOption.getD []).map Value.text else []

/-- The view roots of a configuration. -/
def viewsIn (config : List (Value × Value)) : List String :=
  ((Value.find? config (.str "views")).map rootsIn).getD ["views"]

/-- Whether a configuration has templates kept. -/
def cacheIn (config : List (Value × Value)) : Bool :=
  (Value.find? config (.str "cache")).any Value.truthy

theorem viewsOf_eq {v : Value} {roots : List String} (h : viewsOf v = .ok roots) :
    roots = rootsIn v := by
  rw [viewsOf] at h
  rw [rootsIn]
  cases htext : v.text? with
  | some s =>
    simp only [htext] at h
    exact (Except.ok.inj h).symm
  | none =>
    simp only [htext] at h
    by_cases hv : v.truthy = true
    · rw [if_pos hv] at h
      rw [if_pos hv]
      cases hitems : v.items with
      | error e => simp [hitems, bind, Except.bind] at h
      | ok items =>
        rw [hitems] at h
        exact (Except.ok.inj h).symm
    · rw [if_neg hv] at h
      rw [if_neg hv]
      exact (Except.ok.inj h).symm

theorem dict_of_field {v w : Value} {name : String} (h : field v name = .ok w) :
    ∃ es, v = .dict es := by
  unfold field at h
  split at h
  · exact ⟨_, rfl⟩
  · cases h
  · cases h
  · cases h

theorem field?_eq {v : Value} {name : String} {found : Option Value}
    (h : field? v name = .ok found) : found = inside? v name := by
  by_cases hdict : ∃ es, v = .dict es
  · obtain ⟨es, rfl⟩ := hdict
    exact Except.ok.inj (h.symm.trans (field?_dict es name))
  · have hinside : inside? v name = none := by
      unfold inside?
      split
      · exact absurd ⟨_, rfl⟩ hdict
      · rfl
    obtain ⟨has, -, hfield⟩ := ok_of_bind h
    cases has with
    | true =>
      obtain ⟨w, hw, -⟩ := ok_of_bind hfield
      exact absurd (dict_of_field hw) hdict
    | false => exact (Except.ok.inj hfield).symm.trans hinside.symm

theorem inside?_orEmpty (v : Option Value) (name : String) :
    inside? (View.orEmpty v) name = v.bind (inside? · name) := by
  cases v with
  | none => rfl
  | some v =>
    rw [View.orEmpty, Option.bind_some]
    by_cases hv : v.truthy = true
    · rw [if_pos hv]
    · rw [if_neg hv]
      -- The only false mapping is the empty one.
      cases v with
      | dict es =>
        obtain rfl : es = [] := by simpa [Value.truthy] using hv
        rfl
      | _ => rfl

theorem layoutOf_eq {config : List (Value × Value)} {layout : Option Value}
    (h : layoutOf (.dict config) = .ok layout) :
    layout = (layoutIn config).map fun v => if v.truthy then v else .bool false := by
  obtain ⟨options, hoptions, hrest⟩ := ok_of_bind h
  obtain ⟨found, hfound, hlayout⟩ := ok_of_bind hrest
  obtain rfl : Value.find? config (.str "view_options") = options := Except.ok.inj hoptions
  rw [layoutIn, ← inside?_orEmpty, ← field?_eq hfound]
  exact (Except.ok.inj hlayout).symm

/-- What settings take over from a configuration on views, layout and cache. -/
theorem settings_of_config {env : List (String × String)} {data : List (Value × Value)}
    {settings : Settings} (h : Settings.ofValue env (.dict data) = .ok settings) :
    ∃ config, resolveValue env (.dict data) = .ok (.dict config) ∧
      settings.views = viewsIn config ∧
      settings.layout =
        ((layoutIn config).map fun v => if v.truthy then v else .bool false).getD .null ∧
      settings.cache = cacheIn config := by
  obtain ⟨resolved, hresolved, h₁⟩ := ok_of_bind h
  obtain ⟨config, rfl⟩ : ∃ config, resolved = .dict config := by
    obtain ⟨entries, -, hdict⟩ := ok_of_bind hresolved
    exact ⟨entries, (Except.ok.inj hdict).symm⟩
  obtain ⟨v, hv, h₂⟩ := ok_of_bind h₁
  obtain ⟨views, hviews, h₃⟩ := ok_of_bind h₂
  obtain ⟨layout, hlayout, h₄⟩ := ok_of_bind h₃
  obtain ⟨c, hc, h₅⟩ := ok_of_bind h₄
  obtain ⟨p, -, h₆⟩ := ok_of_bind h₅
  obtain ⟨partials, -, h₇⟩ := ok_of_bind h₆
  obtain ⟨q, -, h₈⟩ := ok_of_bind h₇
  obtain ⟨rendering, -, hsettings⟩ := ok_of_bind h₈
  obtain rfl := (Except.ok.inj hsettings).symm
  rw [field?_dict] at hv hc
  obtain rfl := (Except.ok.inj hv).symm
  obtain rfl := (Except.ok.inj hc).symm
  refine ⟨config, hresolved, ?_, ?_, ?_⟩
  · rw [viewsIn]
    cases hfind : Value.find? config (.str "views") with
    | none =>
      rw [hfind] at hviews
      obtain rfl : none = views := Except.ok.inj hviews
      rfl
    | some v =>
      rw [hfind] at hviews
      obtain ⟨roots, hroots, hsome⟩ := ok_of_bind hviews
      obtain rfl : some roots = views := Except.ok.inj hsome
      exact viewsOf_eq hroots
  · rw [layoutOf_eq hlayout]
  · rw [cacheIn]
    cases Value.find? config (.str "cache") <;> rfl

/-- Only mappings can be loaded. -/
theorem dict_of_settings {env : List (String × String)} {v : Value} {settings : Settings}
    (h : Settings.ofValue env v = .ok settings) : ∃ data, v = .dict data := by
  obtain ⟨resolved, hresolved, h₁⟩ := ok_of_bind h
  obtain ⟨w, -, h₂⟩ := ok_of_bind h₁
  obtain ⟨views, -, h₃⟩ := ok_of_bind h₂
  obtain ⟨layout, hlayout, -⟩ := ok_of_bind h₃
  obtain ⟨options, hoptions, -⟩ := ok_of_bind hlayout
  obtain ⟨config, rfl⟩ : ∃ config, resolved = .dict config := by
    unfold View.lookup? at hoptions
    split at hoptions
    · exact ⟨_, rfl⟩
    · cases hoptions
  cases v with
  | dict data => exact ⟨data, rfl⟩
  | str s | markup s | list items =>
    obtain ⟨x, -, hx⟩ := ok_of_bind hresolved
    cases hx
  | _ => cases hresolved

theorem ofValue_nil (env : List (String × String)) : Settings.ofValue env (.dict []) = .ok {} := by
  rfl

/-- The settings of a command come from a mapping, be it the empty one for want of a file. -/
theorem config_of_load {files : Files.Tree} {env : List (String × String)} {path : Option Files.Path}
    {discover : Bool} {loaded : Loaded} (h : load files env path discover = .ok loaded) :
    ∃ data, Settings.ofValue env (.dict data) = .ok loaded.settings := by
  have hfile : ∀ p, loadFrom files env p = .ok loaded →
      ∃ data, Settings.ofValue env (.dict data) = .ok loaded.settings := by
    intro p hp
    obtain ⟨v, -, hv⟩ := ok_of_bind hp
    obtain ⟨settings, hsettings, hloaded⟩ := ok_of_bind hv
    obtain ⟨data, rfl⟩ := dict_of_settings hsettings
    obtain rfl := Except.ok.inj hloaded
    exact ⟨data, hsettings⟩
  unfold load at h
  split at h
  · split at h
    · exact hfile _ h
    · cases h
  · split at h
    · exact hfile _ h
    · obtain rfl := Except.ok.inj h
      exact ⟨[], ofValue_nil env⟩

end Config

/-! ## From the command line to the render -/

namespace CommandLine

open Files View Run

variable (config : List (Value × Value)) (locals : Locals) (r : Rendering)

/-- The layout that a command is to use: told on the command line, or else in the locals, or else in
the configuration, or else left open. -/
def decisionOf : LayoutDecision :=
  if r.noLayout then .without
  else
    match r.layout.filter fun l => !l.isEmpty with
    | some l => .explicit l
    | none =>
      match (locals.get? "layout").or (Config.layoutIn config) with
      | some v => .ofValue v
      | none => .implicit

/-- The roots in which a command is to look for views. -/
def viewsOf : List Path :=
  if r.views.isEmpty then (Config.viewsIn config).map .ofText else r.views

/-- Whether a command is to have templates kept. -/
def cacheOf : Bool :=
  r.cache || ((locals.get? "cache").map Value.truthy).getD (Config.cacheIn config)

/-- The render that a command starts on a site, with its options in a place of their own. -/
def Rendering.start (r : Rendering) (engine : Nat) (options : Locals) (s : Site) : Request × Site :=
  ({ engine, path := pagePath s.files r.template.text, options := s.options.length },
    (s.addOptions options).2)

/-- Register partials, render the page and put it out. -/
def renderWith (settings : Config.Settings) (engine : Nat) (r : Rendering) (options : Locals) :
    Run Unit := do
  let directory ← orEscape (partialsDirectory settings r)
  let html ← work do
    match directory with
    | some p => discard (registerPartials engine p)
    | none => pure ()
    fun s => View.render (r.start engine options s).1 (r.start engine options s).2
  match r.output with
  | none => print html
  | some p => writePage html p

theorem renderPage_apply (engine : Nat) (options : Locals) (s : Site) :
    renderPage engine r.template options s =
      View.render (r.start engine options s).1 (r.start engine options s).2 := by
  have haddOptions : (modifyGet (·.addOptions options) : Work Nat) s =
      (.ok s.options.length, (s.addOptions options).2) := rfl
  rw [renderPage, bind_apply, haddOptions]
  dsimp only
  rw [bind_apply, get_apply]
  dsimp only
  rw [bind_apply, get_apply]
  dsimp only
  rw [bind_apply, set_apply]
  dsimp only
  generalize hx : View.render _ _ = x
  have hstart : View.render (r.start engine options s).1 (r.start engine options s).2 = x := hx
  obtain ⟨result, t⟩ := x
  rw [hstart]
  cases result <;> rfl

theorem optionsAt_start (engine : Nat) (options : Locals) (s : Site) :
    (r.start engine options s).2.optionsAt (r.start engine options s).1.options = options := by
  show (s.options ++ [options])[s.options.length]?.getD [] = options
  simp

theorem namedLocals_ofTexts :
    namedLocals (locals.map fun (name, v) => (.str name, v)) = .ok locals := by
  induction locals with
  | nil => rfl
  | cons entry more ih =>
    obtain ⟨name, v⟩ := entry
    rw [namedLocals] at ih ⊢
    rw [List.map_cons, List.mapM_cons, ih]
    rfl

/-- The locals that a command is given, if any. -/
def localsIn (files : Tree) (p : Option Path) : Except Fault (List (Value × Value)) :=
  match p with
  | none => .ok []
  | some p => localsFrom files p

section Runs

variable {r : Rendering} {options : Locals} {es : List (Value × Value)}

/-- The command renders its page with the options that its sources settle. -/
theorem runRender_eq {settings : Config.Settings} (engine : Nat) {c : Console}
    (hlocals : localsIn c.site.files r.locals = .ok es)
    (hoptions : (namedLocals es >>= fun locals => renderOptions settings locals r) = .ok options) :
    runRender settings engine r c = renderWith settings engine r options c := by
  have hread : loadLocals r.locals c = (.ok es, c) := by
    cases hp : r.locals with
    | none =>
      rw [hp] at hlocals
      obtain rfl : [] = es := Except.ok.inj hlocals
      rfl
    | some p =>
      have hfrom : localsFrom c.site.files p = .ok es := by
        rw [hp] at hlocals
        exact hlocals
      rw [loadLocals, bind_apply, get_apply]
      dsimp only
      rw [hfrom]
      rfl
  have hpage : renderPage engine r.template options =
      fun s => View.render (r.start engine options s).1 (r.start engine options s).2 :=
    funext (renderPage_apply r engine options)
  rw [runRender, bind_apply, hread]
  dsimp only
  rw [hoptions, orEscape, bind_apply, pure_apply, renderWith]
  dsimp only
  rewrite [hpage]
  rfl

theorem loadConfiguration_apply {env : List (String × String)} {flags : Flags} {c : Console}
    {loaded : Config.Loaded} (h : Config.load c.site.files env flags.config true = .ok loaded) :
    ∃ c', loadConfiguration env flags c = (.ok loaded.settings, c') ∧
      c'.site.files = c.site.files := by
  rw [loadConfiguration, bind_apply, get_apply]
  dsimp only
  rw [h]
  dsimp only
  cases loaded.path with
  | none => exact ⟨c, rfl, rfl⟩
  | some p => exact ⟨_, rfl, rfl⟩

theorem outcomeOf_congr (flags : Flags) {x y : Run Unit} {c c' : Console} (h : x c = y c') :
    outcomeOf flags x c = outcomeOf flags y c' := by
  have hrun : x.run c = y.run c' := h
  rw [outcomeOf, outcomeOf, hrun]

theorem mem_of_mapM {α β ε : Type} {f : α → Except ε β} {xs : List α} {ys : List β}
    (h : xs.mapM f = .ok ys) : ∀ y ∈ ys, ∃ x ∈ xs, f x = .ok y := by
  induction xs generalizing ys with
  | nil =>
    obtain rfl : [] = ys := Except.ok.inj h
    simp
  | cons x xs ih =>
    rw [List.mapM_cons] at h
    obtain ⟨z, hz, hrest⟩ := ok_of_bind h
    obtain ⟨zs, hzs, hcons⟩ := ok_of_bind hrest
    obtain rfl : z :: zs = ys := Except.ok.inj hcons
    intro y hy
    rcases List.mem_cons.mp hy with rfl | hy
    · exact ⟨x, List.mem_cons_self, hz⟩
    · obtain ⟨w, hw, hfw⟩ := ih hzs y hy
      exact ⟨w, List.mem_cons_of_mem _ hw, hfw⟩

/-- A render command is asked for with one plain argument, the page, and without asking for help. -/
theorem command_eq_render_iff {files : Tree} {more : List String} :
    Command.ofArguments files .render more = .ok (.render r) ↔
      ∃ a template, readArguments CommandName.render.options true more = .ok a ∧
        a.has "--help" = false ∧ a.plain = [template] ∧ renderingOf files a template = .ok r := by
  constructor
  · intro h
    obtain ⟨a, ha, hcommand⟩ := ok_of_bind h
    refine ⟨a, ?_⟩
    split at hcommand
    · cases hcommand
    · next hhelp =>
      split at hcommand
      · next template _ hplain =>
        obtain ⟨r', hr', hsame⟩ := ok_of_bind hcommand
        obtain rfl : r' = r := by simpa [pure, Except.pure] using hsame
        exact ⟨template, ha, Bool.eq_false_iff.mpr hhelp, hplain, hr'⟩
      · obtain ⟨p, -, hsame⟩ := ok_of_bind hcommand
        cases hsame
      · obtain ⟨p, -, hsame⟩ := ok_of_bind hcommand
        cases hsame
      · cases hcommand
      · cases hcommand
  · rintro ⟨a, template, ha, hhelp, hplain, hr⟩
    rw [Command.ofArguments, ha]
    show (if a.has "--help" = true then _ else _) = _
    rw [if_neg (Bool.eq_false_iff.mp hhelp), hplain]
    dsimp only
    rw [hr]
    rfl

/-- The roots on a command line are paths that were written as texts. -/
theorem views_of_command {files : Tree} {more : List String}
    (h : Command.ofArguments files .render more = .ok (.render r)) :
    ∀ p ∈ r.views, ∃ s, p = .ofText s := by
  obtain ⟨a, template, -, -, -, ht⟩ := command_eq_render_iff.mp h
  obtain ⟨path, -, h₁⟩ := ok_of_bind ht
  obtain ⟨views, hviews, h₂⟩ := ok_of_bind h₁
  obtain ⟨p, -, h₃⟩ := ok_of_bind h₂
  obtain ⟨q, -, h₄⟩ := ok_of_bind h₃
  obtain rfl := Except.ok.inj h₄
  intro p hp
  obtain ⟨s, -, hs⟩ := mem_of_mapM hviews p hp
  unfold possibleFolder at hs
  split at hs
  · cases hs
  · exact ⟨s, (Except.ok.inj hs).symm⟩

/-- A run of the program that comes to a render command goes on with an engine of the configured
settings. -/
theorem run_render {files : Tree} {env : List (String × String)} {arguments more : List String}
    {flags : Flags} {loaded : Config.Loaded}
    (hinvocation : Invocation.ofArguments files arguments = .ok (.command flags .render more))
    (hload : Config.load files env flags.config true = .ok loaded)
    (hcommand : Command.ofArguments files .render more = .ok (.render r))
    (hlocals : localsIn files r.locals = .ok es)
    (hoptions : (namedLocals es >>= fun locals => renderOptions loaded.settings locals r) =
      .ok options) :
    ∃ engine c, run files env arguments =
      outcomeOf flags (renderWith loaded.settings engine r options) c := by
  let start : Console := { site := { files, activity := { ids := fun n => toString n } } }
  obtain ⟨c, hloaded, hfiles⟩ := loadConfiguration_apply (c := start) hload
  have hread : Command.ofArguments c.site.files .render more = .ok (.render r) := hfiles ▸ hcommand
  let engine := c.site.engines.length
  let c' : Console := { c with site := (c.site.addEngine loaded.settings.engine).2 }
  have hrun : runCommand env flags .render more start = runRender loaded.settings engine r c' := by
    rw [runCommand, bind_apply, hloaded]
    dsimp only
    rw [bind_apply, get_apply]
    dsimp only
    rw [hread]
    rfl
  have hlocals' : localsIn c'.site.files r.locals = .ok es := hfiles ▸ hlocals
  refine ⟨engine, c', ?_⟩
  rw [run, hinvocation]
  show outcomeOf flags (runCommand env flags .render more) start = _
  exact outcomeOf_congr flags (hrun.trans (runRender_eq engine hlocals' hoptions))

end Runs

/-! ### What the options hold -/

/-- The settings of a render with some roots for views and some view options. -/
def settingsWith (roots : List String) (viewOptions : List (Value × Value)) : Value :=
  .dict [(.str "views", .list (roots.map .str)), (.str "view options", .dict viewOptions)]

/-- The view options of settings. -/
def viewOptionsOf (settings : Config.Settings) : List (Value × Value) :=
  if settings.layout.equals .null then [] else [(.str "layout", settings.layout)]

theorem replaceViews_ok {options : Locals} {roots : List String} {viewOptions : List (Value × Value)}
    (h : options.get? "settings" = some (settingsWith roots viewOptions)) (views : List Path) :
    ∃ replaced, replaceViews views options = .ok replaced ∧
      replaced.get? "settings" = some (settingsWith
        (if views.isEmpty then roots else views.map Path.text) viewOptions) ∧
      ∀ name, name ≠ "settings" → replaced.get? name = options.get? name := by
  rw [replaceViews]
  by_cases hviews : views.isEmpty = true
  · rw [if_pos hviews, if_pos hviews]
    exact ⟨options, rfl, h, fun _ _ => rfl⟩
  · rw [if_neg hviews, if_neg hviews, h, settingsWith]
    refine ⟨_, rfl, ?_, fun name hname => options.get?_set_of_ne _ hname⟩
    rw [Locals.get?_set_self, settingsWith]
    simp [Value.insert, Value.equals, Value.text?]

/-- The layout that the command line tells, false for none. -/
def layoutTold : Option Value :=
  if r.noLayout then some (.bool false) else (r.layout.filter fun l => !l.isEmpty).map .str

/-- What the command line tells replaces what the options hold. -/
def toldOn (options : Locals) : Locals :=
  let options := if r.cache then options.set "cache" (.bool true) else options
  match layoutTold r with
  | some v => options.set "layout" v
  | none => options

theorem renderOptions_eq {settings : Config.Settings} {options replaced : Locals}
    (h : settings.renderOptions locals = .ok options)
    (hreplaced : replaceViews r.views options = .ok replaced) :
    renderOptions settings locals r = .ok (toldOn r replaced) := by
  have hlayout : toldOn r replaced =
      let options := if r.cache then replaced.set "cache" (.bool true) else replaced
      if r.noLayout then options.set "layout" (.bool false)
      else
        match r.layout with
        | some l => if l.isEmpty then options else options.set "layout" (.str l)
        | none => options := by
    rw [toldOn, layoutTold]
    by_cases hnone : r.noLayout = true
    · simp only [if_pos hnone]
    · simp only [if_neg hnone]
      cases r.layout with
      | none => rfl
      | some l =>
        by_cases hl : l.isEmpty = true
        · simp [Option.filter, hl]
        · simp [Option.filter, hl]
  rw [renderOptions, h, hlayout]
  show (do let options ← replaceViews r.views options; _) = _
  rw [hreplaced]
  rfl

theorem get?_toldOn (options : Locals) :
    (toldOn r options).get? "settings" = options.get? "settings" ∧
      (toldOn r options).get? "cache" =
        (if r.cache then some (.bool true) else options.get? "cache") ∧
      (toldOn r options).get? "layout" = (layoutTold r).or (options.get? "layout") := by
  have hcache : ∀ name, (if r.cache then options.set "cache" (.bool true) else options).get? name =
      if r.cache ∧ name = "cache" then some (.bool true) else options.get? name := by
    intro name
    by_cases hc : r.cache = true
    · by_cases hname : name = "cache"
      · subst hname
        simp [hc, Locals.get?_set_self]
      · simp [hc, hname, Locals.get?_set_of_ne options (.bool true) hname]
    · simp [hc]
  rw [toldOn]
  cases layoutTold r with
  | none => exact ⟨by simp [hcache], by simp [hcache], by simp [hcache]⟩
  | some v =>
    refine ⟨?_, ?_, ?_⟩
    · rw [Locals.get?_set_of_ne _ _ (by decide), hcache]
      simp
    · rw [Locals.get?_set_of_ne _ _ (by decide), hcache]
      simp
    · rw [Locals.get?_set_self]
      rfl

/-- The options of a render that a command starts, as far as they are looked at here. -/
structure Settled (settings : Config.Settings) (locals : Locals) (r : Rendering)
    (options : Locals) : Prop where
  settled : renderOptions settings locals r = .ok options
  layout : options.get? "layout" = (layoutTold r).or (locals.get? "layout")
  cache : options.get? "cache" =
    some (if r.cache then .bool true else (locals.get? "cache").getD (.bool settings.cache))
  settings : options.get? "settings" = some (settingsWith
    (if r.views.isEmpty then settings.views else r.views.map Path.text) (viewOptionsOf settings))

variable {locals r} in
theorem exists_settled (settings : Config.Settings) (hnodup : (locals.map (·.1)).Nodup)
    (hself : locals.get? "self" = none) (hsettings : locals.get? "settings" = none) :
    ∃ options, Settled settings locals r options := by
  let options := Locals.update [("settings", settings.shared), ("cache", .bool settings.cache)] locals
  have hoptions : settings.renderOptions locals = .ok options := by
    have hcontains : locals.contains "self" = false := by
      rw [Locals.contains, hself]
      rfl
    rw [Config.Settings.renderOptions, hcontains]
    rfl
  have hget := fun name => Locals.get?_update_nodup
    [("settings", settings.shared), ("cache", .bool settings.cache)] hnodup name
  have hshared : options.get? "settings" =
      some (settingsWith settings.views (viewOptionsOf settings)) := by
    rw [hget, hsettings]
    rfl
  obtain ⟨replaced, hreplaced, hviews, hkept⟩ := replaceViews_ok hshared r.views
  obtain ⟨htold₁, htold₂, htold₃⟩ := get?_toldOn r replaced
  refine ⟨toldOn r replaced, renderOptions_eq locals r hoptions hreplaced, ?_, ?_, ?_⟩
  · have hbase : Locals.get? [("settings", settings.shared), ("cache", .bool settings.cache)]
        "layout" = none := rfl
    rw [htold₃, hkept "layout" (by decide), hget, hbase, Option.or_none]
  · have hbase : Locals.get? [("settings", settings.shared), ("cache", .bool settings.cache)]
        "cache" = some (.bool settings.cache) := rfl
    rw [htold₂, hkept "cache" (by decide), hget, hbase]
    cases locals.get? "cache" <;> cases r.cache <;> rfl
  · rw [htold₁, hviews]

theorem ofValue_of_false {v : Value} (h : v.truthy = false) : LayoutDecision.ofValue v = .without := by
  rw [LayoutDecision.ofValue, h]
  rfl

theorem ofOptions_settingsWith {options : Locals} {roots : List String}
    {viewOptions : List (Value × Value)} (hlayout : options.get? "layout" = none)
    (hsettings : options.get? "settings" = some (settingsWith roots viewOptions)) :
    LayoutDecision.ofOptions options =
      .ok (((Value.find? viewOptions (.str "layout")).map LayoutDecision.ofValue).getD .implicit) := by
  have hviewOptions : lookup? (settingsWith roots viewOptions) "view options" =
      .ok (some (.dict viewOptions)) := by
    simp [settingsWith, lookup?, Value.find?, Value.equals, Value.text?]
  have hchoice : lookup? (orEmpty (some (.dict viewOptions))) "layout" =
      .ok (Value.find? viewOptions (.str "layout")) := by
    cases viewOptions <;> rfl
  have hfull : orEmpty (some (settingsWith roots viewOptions)) = settingsWith roots viewOptions := rfl
  rw [LayoutDecision.ofOptions, hlayout, hsettings, hfull]
  dsimp only
  rw [hviewOptions]
  dsimp only [bind, Except.bind]
  rw [hchoice]
  cases Value.find? viewOptions (.str "layout") <;> rfl

theorem viewOptionsOf_config {settings : Config.Settings} {config : List (Value × Value)}
    (h : settings.layout =
      ((Config.layoutIn config).map fun v => if v.truthy then v else .bool false).getD .null) :
    (Value.find? (viewOptionsOf settings) (.str "layout")).map LayoutDecision.ofValue =
      (Config.layoutIn config).map LayoutDecision.ofValue := by
  have hone : ∀ v, Value.find? [(.str "layout", v)] (.str "layout") = some v := by
    simp [Value.find?, Value.equals, Value.text?]
  cases hlayout : Config.layoutIn config with
  | none =>
    have hnull : settings.layout.equals .null = true := by simp [h, hlayout, Value.equals]
    rw [viewOptionsOf, if_pos hnull]
    rfl
  | some v =>
    have hvalue : settings.layout = if v.truthy then v else .bool false := by simp [h, hlayout]
    have hgiven : settings.layout.equals .null = false := by
      rw [hvalue]
      split
      · next hv => exact Value.not_equals_null hv
      · simp [Value.equals, Value.numeric?]
    have hdecides : LayoutDecision.ofValue settings.layout = LayoutDecision.ofValue v := by
      rw [hvalue]
      split
      · rfl
      · next hv =>
        have hfalse : v.truthy = false := by simpa using hv
        rw [ofValue_of_false hfalse]
        rfl
    rw [viewOptionsOf, hgiven, if_neg Bool.false_ne_true, hone]
    exact congrArg some hdecides

theorem mapM_pathOf_texts (roots : List String) :
    (roots.map Value.str).mapM pathOf = .ok (roots.map Path.ofText) := by
  induction roots with
  | nil => rfl
  | cons s roots ih =>
    rw [List.map_cons, List.mapM_cons, ih]
    rfl

theorem rootsOf_settingsWith {options : Locals} {roots : List String}
    {viewOptions : List (Value × Value)}
    (hsettings : options.get? "settings" = some (settingsWith roots viewOptions)) :
    rootsOf options = .ok (roots.map Path.ofText) := by
  have hviews : lookup? (settingsWith roots viewOptions) "views" =
      .ok (some (.list (roots.map .str))) := by
    simp [settingsWith, lookup?, Value.find?, Value.equals, Value.text?]
  have hfull : orEmpty (some (settingsWith roots viewOptions)) = settingsWith roots viewOptions := rfl
  rw [rootsOf, settingsOf, hsettings, hfull, hviews]
  show viewRoots (.list (roots.map .str)) = _
  cases roots with
  | nil => rfl
  | cons s roots => exact mapM_pathOf_texts (s :: roots)

namespace Settled

variable {settings : Config.Settings} {config : List (Value × Value)} {locals : Locals}
  {r : Rendering} {options : Locals}

theorem decision (h : Settled settings locals r options)
    (hlayout : settings.layout =
      ((Config.layoutIn config).map fun v => if v.truthy then v else .bool false).getD .null) :
    LayoutDecision.ofOptions options = .ok (decisionOf config locals r) := by
  have hpresent : ∀ v, options.get? "layout" = some v →
      LayoutDecision.ofOptions options = .ok (.ofValue v) := by
    intro v hv
    rw [LayoutDecision.ofOptions, hv]
  have hoption := h.layout
  rw [layoutTold] at hoption
  rw [decisionOf]
  by_cases hnone : r.noLayout = true
  · rw [if_pos hnone, Option.some_or] at hoption
    rw [if_pos hnone, hpresent _ hoption]
    rfl
  · rw [if_neg hnone] at hoption
    rw [if_neg hnone]
    cases hl : r.layout.filter fun l => !l.isEmpty with
    | some l =>
      rw [hl, Option.map_some, Option.some_or] at hoption
      obtain ⟨-, hfull⟩ := Option.filter_eq_some_iff.mp hl
      have htruthy : (Value.str l).truthy = true := hfull
      rw [hpresent _ hoption, LayoutDecision.ofValue, if_pos htruthy]
      rfl
    | none =>
      rw [hl, Option.map_none, Option.none_or] at hoption
      cases hlocal : locals.get? "layout" with
      | some v =>
        rw [hlocal] at hoption
        rw [hpresent v hoption]
        rfl
      | none =>
        rw [hlocal] at hoption
        rw [ofOptions_settingsWith hoption h.settings, viewOptionsOf_config hlayout]
        cases Config.layoutIn config <;> rfl

theorem roots (h : Settled settings locals r options) (hroots : settings.views = Config.viewsIn config)
    (hviews : ∀ p ∈ r.views, ∃ s, p = .ofText s) : rootsOf options = .ok (viewsOf config r) := by
  rw [rootsOf_settingsWith h.settings, viewsOf, hroots]
  by_cases hnone : r.views.isEmpty = true
  · rw [if_pos hnone, if_pos hnone]
  · have hread : ∀ p ∈ r.views, Path.ofText p.text = p := by
      intro p hp
      obtain ⟨s, rfl⟩ := hviews p hp
      exact Path.ofText_text s
    rw [if_neg hnone, if_neg hnone, List.map_map]
    exact congrArg _ ((List.map_congr_left hread).trans (List.map_id _))

theorem caching (h : Settled settings locals r options)
    (hcache : settings.cache = Config.cacheIn config) :
    (options.get? "cache").any Value.truthy = cacheOf config locals r := by
  rw [h.cache, cacheOf, hcache]
  cases r.cache with
  | true => rfl
  | false => cases locals.get? "cache" <;> rfl

end Settled

/-- The options of the render that a command starts. Of a configuration that loads, locals that
leave the settings to it, and the command line, the layout is settled by the command line, or else
by the locals, or else by the configuration, or else left open; the roots for views are those of the
command line, or else of the configuration; and templates are kept if the command line says so, or
else as the locals, or else the configuration say. Every run that comes to a render command starts
its render with such options. -/
theorem render_options_in_order :
    (∀ (env : List (String × String)) (data : List (Value × Value)) (settings : Config.Settings)
      (locals : Locals) (r : Rendering),
      Config.Settings.ofValue env (.dict data) = .ok settings → (locals.map (·.1)).Nodup →
      locals.get? "self" = none → locals.get? "settings" = none →
      (∀ p ∈ r.views, ∃ s, p = .ofText s) →
      ∃ config options, Config.resolveValue env (.dict data) = .ok (.dict config) ∧
        (namedLocals (locals.map fun (name, v) => (.str name, v)) >>= fun locals =>
          renderOptions settings locals r) = .ok options ∧
        ∀ engine s, let (request, site) := r.start engine options s
          LayoutDecision.ofOptions (site.optionsAt request.options) =
            .ok (decisionOf config locals r) ∧
          rootsOf (site.optionsAt request.options) = .ok (viewsOf config r) ∧
          site.caching request = cacheOf config locals r) ∧
    ∀ (files : Tree) (env : List (String × String)) (arguments more : List String) (flags : Flags)
      (loaded : Config.Loaded) (r : Rendering) (es : List (Value × Value)) (options : Locals),
      Invocation.ofArguments files arguments = .ok (.command flags .render more) →
      Config.load files env flags.config true = .ok loaded →
      Command.ofArguments files .render more = .ok (.render r) →
      localsIn files r.locals = .ok es →
      (namedLocals es >>= fun locals => renderOptions loaded.settings locals r) = .ok options →
      (∃ data, Config.Settings.ofValue env (.dict data) = .ok loaded.settings) ∧
        (∀ p ∈ r.views, ∃ s, p = .ofText s) ∧
        ∃ engine c, run files env arguments =
          outcomeOf flags (renderWith loaded.settings engine r options) c := by
  refine ⟨fun env data settings locals r hload hnodup hself hsettings hviews => ?_, ?_⟩
  · obtain ⟨config, hconfig, hroots, hlayout, hcache⟩ := Config.settings_of_config hload
    obtain ⟨options, h⟩ := exists_settled (r := r) settings hnodup hself hsettings
    have hnamed := namedLocals_ofTexts locals
    refine ⟨config, options, hconfig, by rw [hnamed]; exact h.settled, fun engine s => ?_⟩
    have hat := optionsAt_start r engine options s
    dsimp only
    rw [Site.caching, hat]
    exact ⟨h.decision hlayout, h.roots hroots hviews, h.caching hcache⟩
  · intro files env arguments more flags loaded r es options hinvocation hload hcommand hlocals
      hoptions
    exact ⟨Config.config_of_load hload, views_of_command hcommand,
      run_render hinvocation hload hcommand hlocals hoptions⟩

/-- A configuration that takes its layout from the environment. -/
def pagesConfig (layout : String) : List (Value × Value) :=
  [(.str "views", .str "pages"), (.str "cache", .bool true),
    (.str "view_options", .dict [(.str "layout", .str layout)])]

theorem resolveValue_pagesConfig :
    Config.resolveValue [("FRAME", "")] (.dict (pagesConfig "$\x7bFRAME\x7d")) =
      .ok (.dict (pagesConfig "")) := by
  have hpages : Config.resolveText [("FRAME", "")] "pages" = .ok "pages" := by
    have hparts : Config.parts "pages".toList = "pages".toList.map .plain := by simp [Config.parts]
    rw [Config.resolveText, hparts]
    rfl
  have hframe : Config.resolveText [("FRAME", "")] "$\x7bFRAME\x7d" = .ok "" := by
    have hread : Config.readReference ['F', 'R', 'A', 'M', 'E', '\x7d'] =
      some (['F', 'R', 'A', 'M', 'E'], []) := by decide
    have hparts : Config.parts "$\x7bFRAME\x7d".toList =
        [.reference ['F', 'R', 'A', 'M', 'E']] := by
      show Config.parts ['$', '\x7b', 'F', 'R', 'A', 'M', 'E', '\x7d'] = _
      rw [Config.parts]
      split
      · next name after h =>
        obtain ⟨rfl, rfl⟩ : name = ['F', 'R', 'A', 'M', 'E'] ∧ after = [] := by
          simpa [eq_comm] using hread.symm.trans h
        rw [Config.parts]
      · next h => cases hread.symm.trans h
    rw [Config.resolveText, hparts]
    rfl
  simp only [pagesConfig, Config.resolveValue, Config.resolveEntries, hpages, hframe]
  rfl

/-- With an empty variable for a layout and locals that keep nothing, the page stands alone. -/
theorem render_options_of_pagesConfig :
    let r : Rendering := { template := .ofText "home.html", layout := some "" }
    ∃ settings options,
      Config.Settings.ofValue [("FRAME", "")] (.dict (pagesConfig "$\x7bFRAME\x7d")) = .ok settings ∧
      (namedLocals [(.str "cache", .int 0)] >>= fun locals => renderOptions settings locals r) =
        .ok options ∧
      ∀ engine s, let (request, site) := r.start engine options s
        LayoutDecision.ofOptions (site.optionsAt request.options) = .ok .without ∧
        rootsOf (site.optionsAt request.options) = .ok [.ofText "pages"] ∧
        site.caching request = false := by
  intro r
  obtain ⟨settings, hload⟩ : ∃ settings,
      Config.Settings.ofValue [("FRAME", "")] (.dict (pagesConfig "$\x7bFRAME\x7d")) =
        .ok settings := by
    rw [Config.Settings.ofValue, resolveValue_pagesConfig]
    exact ⟨_, rfl⟩
  obtain ⟨config, options, hconfig, hoptions, hrender⟩ :=
    render_options_in_order.1 [("FRAME", "")] _ settings [("cache", .int 0)] r hload (by decide)
      rfl rfl nofun
  obtain rfl : config = pagesConfig "" := by
    simpa [resolveValue_pagesConfig, eq_comm] using hconfig
  refine ⟨settings, options, hload, hoptions, fun engine s => ?_⟩
  obtain ⟨hdecision, hroots, hcaching⟩ := hrender engine s
  refine ⟨hdecision.trans ?_, hroots.trans ?_, hcaching.trans ?_⟩
  · rfl
  · rfl
  · rfl

end CommandLine
end DeferredViews
