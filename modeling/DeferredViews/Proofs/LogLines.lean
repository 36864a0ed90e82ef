import DeferredViews.Log.Loggers
import DeferredViews.Proofs.Precedence
import DeferredViews.Proofs.Scopes
import DeferredViews.Proofs.WrittenValues

/-!
# JSON log lines are read back

As JSON a record is one line of printable ASCII, whatever its message and its fields hold. The line
is read as the object of the core fields with the extra fields over them. What a handler writes
therefore falls into one line for each record, and no message can feign another record.
-/
namespace DeferredViews

/-! ## Fields over fields -/

namespace Locals

/-- Every field with the value that `more` has under its name, if any, and then what `more` has
under new names. -/
def overridden (l more : Locals) : Locals :=
  l.map (fun (k, v) => (k, (more.get? k).getD v)) ++
    more.filter fun (k, _) => k ∉ l.map (·.1)

theorem get?_cons (name : String) (v : Value) (l : Locals) (k : String) :
    get? ((name, v) :: l) k = if k = name then some v else l.get? k := by
  by_cases h : k = name
  · simp [get?, h]
  · have hbeq : (k == name) = false := beq_eq_false_iff_ne.mpr h
    simp [get?, List.lookup_cons, h, hbeq]

theorem get?_of_not_mem {l : Locals} {name : String} (h : name ∉ l.map (·.1)) :
    l.get? name = none := by
  induction l with
  | nil => rfl
  | cons f l ih =>
    obtain ⟨hne, hl⟩ : name ≠ f.1 ∧ name ∉ l.map (·.1) := by simpa using h
    rw [get?_cons, if_neg hne, ih hl]

/-- A known name keeps its place. -/
theorem set_of_mem {l : Locals} (distinct : (l.map (·.1)).Nodup) {name : String}
    (h : name ∈ l.map (·.1)) (v : Value) :
    l.set name v = l.map fun (k, w) => (k, if k = name then v else w) := by
  induction l with
  | nil => simp at h
  | cons f l ih =>
    obtain ⟨k, w⟩ := f
    obtain ⟨hk, hl⟩ := List.nodup_cons.mp distinct
    by_cases hname : name = k
    · subst hname
      have hkeep : l.map (fun (k, w) => (k, if k = name then v else w)) = l := by
        conv_rhs => rw [← List.map_id l]
        apply List.map_congr_left
        intro f hf
        have hne : f.1 ≠ name := fun h => hk (List.mem_map.mpr ⟨f, hf, h⟩)
        simp [hne]
      simp [set, hkeep]
    · have hmem : name ∈ l.map (·.1) := by simpa [hname] using h
      simp [set, hname, ih hl hmem, Ne.symm hname]

/-- A new name is added at the end. -/
theorem set_of_not_mem {l : Locals} {name : String} (h : name ∉ l.map (·.1)) (v : Value) :
    l.set name v = l ++ [(name, v)] := by
  induction l with
  | nil => rfl
  | cons f l ih =>
    obtain ⟨hne, hl⟩ : name ≠ f.1 ∧ name ∉ l.map (·.1) := by simpa using h
    simp [set, hne, ih hl]

theorem overridden_set {l more : Locals} {name : String} (distinct : (l.map (·.1)).Nodup)
    (hnew : name ∉ more.map (·.1)) (v : Value) :
    (l.set name v).overridden more = l.overridden ((name, v) :: more) := by
  have hnone := get?_of_not_mem hnew
  by_cases hmem : name ∈ l.map (·.1)
  · have hold : l.map (fun (k, w) => (k, (more.get? k).getD (if k = name then v else w))) =
        l.map fun (k, w) => (k, (get? ((name, v) :: more) k).getD w) := by
      apply List.map_congr_left
      intro f hf
      by_cases hname : f.1 = name <;> simp [get?_cons, hname, hnone]
    have hnames : (l.map fun (k, w) => (k, if k = name then v else w)).map (·.1) = l.map (·.1) := by
      simp
    rw [set_of_mem distinct hmem, overridden, overridden, hnames, List.map_map, ← hold,
      List.filter_cons_of_neg (by simpa using hmem)]
    rfl
  · have hold : l.map (fun (k, w) => (k, (get? ((name, v) :: more) k).getD w)) =
        l.map fun (k, w) => (k, (more.get? k).getD w) := by
      apply List.map_congr_left
      intro f hf
      have hne : f.1 ≠ name := fun h => hmem (List.mem_map.mpr ⟨f, hf, h⟩)
      simp [get?_cons, hne]
    have hfilter : more.filter (fun (k, _) => k ∉ (l ++ [(name, v)]).map (·.1)) =
        more.filter fun (k, _) => k ∉ l.map (·.1) := by
      apply List.filter_congr
      intro f hf
      have hne : f.1 ≠ name := fun h => hnew (List.mem_map.mpr ⟨f, hf, h⟩)
      simp [hne]
    rw [set_of_not_mem hmem, overridden, overridden, hold, hfilter,
      List.filter_cons_of_pos (by simpa using hmem)]
    simp [hnone]

/-- To bind the names of `more` one by one is to lay its fields over the others. -/
theorem update_eq_overridden {l more : Locals} (hl : (l.map (·.1)).Nodup)
    (hmore : (more.map (·.1)).Nodup) : l.update more = l.overridden more := by
  induction more generalizing l with
  | nil => simp [update, overridden]
  | cons f more ih =>
    obtain ⟨name, v⟩ := f
    obtain ⟨hnew, hrest⟩ := List.nodup_cons.mp hmore
    have hstep : l.update ((name, v) :: more) = (l.set name v).overridden more :=
      ih (nodup_set hl name v) hrest
    rw [hstep, overridden_set hl hnew]

theorem nodup_overridden {l more : Locals} (hl : (l.map (·.1)).Nodup)
    (hmore : (more.map (·.1)).Nodup) : ((l.overridden more).map (·.1)).Nodup := by
  have hold : (l.map fun (k, v) => (k, (more.get? k).getD v)).map (·.1) = l.map (·.1) := by simp
  rw [overridden, List.map_append, hold, List.nodup_append]
  refine ⟨hl, hmore.sublist (List.filter_sublist.map _), ?_⟩
  rintro name hname other hother rfl
  obtain ⟨f, hf, rfl⟩ := List.mem_map.mp hother
  exact absurd hname (of_decide_eq_true (List.mem_filter.mp hf).2)

/-- What holds of the values on both sides holds of the values that stand in the end. -/
theorem forall_overridden {P : Value → Prop} {l more : Locals} (hl : ∀ f ∈ l, P f.2)
    (hmore : ∀ f ∈ more, P f.2) : ∀ f ∈ l.overridden more, P f.2 := by
  intro f hf
  rcases List.mem_append.mp hf with hf | hf
  · obtain ⟨⟨name, v⟩, hv, rfl⟩ := List.mem_map.mp hf
    cases hw : more.get? name with
    | none => simpa [hw] using hl (name, v) hv
    | some w => simpa [hw] using hmore (name, w) (Template.mem_of_lookup hw)
  · exact hmore f (List.mem_filter.mp hf).1

end Locals

namespace Log

open Text Json

/-! ## One record -/

/-- The fields that every record has. -/
def coreFields (time : Moment) (r : Record) (message : String) : Locals :=
  [("level", .str (levelName r.level)), ("ts", .str (time.text "T")), ("logger", .str r.logger),
    ("msg", .str message)]

theorem nodup_coreFields (time : Moment) (r : Record) (message : String) :
    ((coreFields time r message).map (·.1)).Nodup := by
  simp [coreFields]

/-- Without arguments a message is taken as it stands. -/
theorem Record.text_of_no_args {r : Record} (h : r.args = []) : r.text = .ok r.message := by
  simp [Record.text, h]

theorem Record.fields_eq {r : Record} (untroubled : r.trouble = none)
    (distinct : (r.extra.map (·.1)).Nodup) (time : Moment) (message : String) :
    r.fields time message = (coreFields time r message).overridden r.extra := by
  rw [← Locals.update_eq_overridden (nodup_coreFields time r message) distinct, Record.fields,
    untroubled]
  rfl

theorem format_json {r : Record} {message : String} (text : r.text = .ok message) (colors : Bool)
    (time : Moment) :
    (⟨.json, colors⟩ : Formatter).format time r =
      .ok (Json.write (objectOf (r.fields time message))) := by
  rw [Formatter.format, text]
  rfl

/-- As JSON a record is printable ASCII, whatever it says. -/
theorem isAsciiLine_of_format {f : Formatter} (json : f.style = .json) {time : Moment} {r : Record}
    {line : String} (h : f.format time r = .ok line) : IsAsciiLine line.toList := by
  obtain ⟨style, colors⟩ := f
  obtain rfl : style = .json := json
  cases text : r.text with
  | error fault =>
    rw [Formatter.format, text] at h
    cases h
  | ok message =>
    rw [format_json text] at h
    obtain rfl := Except.ok.inj h
    rw [Json.write, String.toList_ofList]
    exact isAsciiLine_writeValue _

/-! ## Many records -/

/-- The lines of the records that a handler accepts and whose messages can be made. -/
def Handler.lines (h : Handler) (time : Moment) (rs : List Record) : List String :=
  (rs.filter h.accepts).filterMap fun r => (h.formatter.format time r).toOption

/-- Lines, each with a break at its end. -/
def broken (lines : List String) : List Char := lines.flatMap fun line => line.toList ++ ['\n']

theorem toList_writeAll (h : Handler) (time : Moment) (rs : List Record) :
    (h.writeAll time rs).toList = broken (h.lines time rs) := by
  induction rs with
  | nil => rfl
  | cons r rs ih =>
    have hstep : (h.writeAll time (r :: rs)).toList =
        (h.write time r).toList ++ (h.writeAll time rs).toList := by
      simp [Handler.writeAll, String.join_cons]
    rw [hstep, ih]
    by_cases haccepts : h.accepts r = true
    · cases hline : h.formatter.format time r with
      | ok line => simp [Handler.write, Handler.lines, haccepts, hline, Except.toOption, broken]
      | error fault => simp [Handler.write, Handler.lines, haccepts, hline, Except.toOption]
    · simp [Handler.write, Handler.lines, haccepts]

/-- Lines without breaks of their own fall apart at the breaks. -/
theorem splitOn_broken {lines : List String} (h : ∀ line ∈ lines, IsAsciiLine line.toList) :
    splitOn (· == '\n') (broken lines) = lines.map String.toList ++ [[]] := by
  induction lines with
  | nil => rfl
  | cons line lines ih =>
    have hline : ∀ c ∈ line.toList, (c == '\n') = false := by
      intro c hc
      have hprintable := h line List.mem_cons_self c hc
      rw [beq_eq_false_iff_ne]
      rintro rfl
      simp [isPrintableAscii] at hprintable
    have hrest := ih fun l hl => h l (List.mem_cons_of_mem line hl)
    have hbroken : broken (line :: lines) = line.toList ++ '\n' :: broken lines := by
      simp [broken]
    rw [hbroken, splitOn_append hline rfl, hrest]
    rfl

/-- The lines of several records are those of each. -/
theorem Handler.lines_append (h : Handler) (time : Moment) (rs more : List Record) :
    h.lines time (rs ++ more) = h.lines time rs ++ h.lines time more := by
  simp [Handler.lines]

theorem splitOn_writeAll {h : Handler} (json : h.formatter.style = .json) (time : Moment)
    (rs : List Record) :
    splitOn (· == '\n') (h.writeAll time rs).toList =
      (h.lines time rs).map String.toList ++ [[]] := by
  rw [toList_writeAll, splitOn_broken]
  intro line hline
  obtain ⟨r, -, hr⟩ := List.mem_filterMap.mp hline
  cases hformat : h.formatter.format time r with
  | error fault => simp [hformat, Except.toOption] at hr
  | ok written =>
    obtain rfl : written = line := by simpa [hformat, Except.toOption] using hr
    exact isAsciiLine_of_format json hformat

/-- As JSON a record without an exception is one line of printable ASCII, and reading the line
gives the core fields with the extra fields over them. Among records of any kind, written before
and after it, the line stands as it is, and every other line is that of another record. -/
theorem json_line_decodes (colors : Bool) (time : Moment) {r : Record} {message : String}
    (untroubled : r.trouble = none) (distinct : (r.extra.map (·.1)).Nodup)
    (each : ∀ f ∈ r.extra, IsJson f.2) (text : r.text = .ok message) :
    ∃ line, (⟨.json, colors⟩ : Formatter).format time r = .ok line ∧
      IsAsciiLine line.toList ∧
      read? line = some (objectOf ((coreFields time r message).overridden r.extra)) ∧
      ∀ h : Handler, h.formatter = ⟨.json, colors⟩ → h.accepts r = true →
        ∀ before after : List Record,
          splitOn (· == '\n') (h.writeAll time (before ++ r :: after)).toList =
            (h.lines time before).map String.toList ++
              line.toList :: (h.lines time after).map String.toList ++ [[]] := by
  have hformat := format_json text colors time
  have hfields := r.fields_eq untroubled distinct time message
  have hcore : ∀ f ∈ coreFields time r message, IsJson f.2 := by simp [coreFields, IsJson.str]
  have hobject : IsJson (objectOf ((coreFields time r message).overridden r.extra)) :=
    .object (Locals.nodup_overridden (nodup_coreFields time r message) distinct)
      (Locals.forall_overridden hcore each)
  refine ⟨_, hformat, isAsciiLine_of_format rfl hformat, ?_, ?_⟩
  · rw [hfields]
    exact read?_write hobject
  · intro h hh accepted before after
    have hline : h.lines time [r] = [Json.write (objectOf (r.fields time message))] := by
      simp [Handler.lines, accepted, hh, hformat, Except.toOption]
    rw [splitOn_writeAll (by rw [hh]), ← List.singleton_append, Handler.lines_append,
      Handler.lines_append, hline]
    simp

def noon : Moment := ⟨⟨2024, 5, 6⟩, 12, 0, 0, 0, some 0⟩

/-- The handler for machines. -/
def machineHandler : Handler := Handler.ofFlags false false true true

/-- A record whose message and fields hold breaks, quotes, controls and a character beyond the
basic plane, and whose fields hide a core field. -/
def strangeRecord : Record where
  logger := "jinjaview.engine"
  level := infoLevel
  message := "done\n\x7b\"msg\": \"forged\"\x7d\r\t\\ \x01 é \u2028 😀"
  extra := [("level", .str "FORGED"), ("cost", .float ⟨0x3fb999999999999a⟩),
    ("seen", .list [.int (-3), .null, objectOf [("\"", .bool true)]])]

theorem isJson_strangeRecord : ∀ f ∈ strangeRecord.extra, IsJson f.2 := by
  have hfield : IsJson (objectOf [("\"", .bool true)]) :=
    .object (by simp) (by simp [IsJson.bool])
  have hlist : IsJson (.list [.int (-3), .null, objectOf [("\"", .bool true)]]) :=
    .list (by simp [IsJson.int, IsJson.null, hfield])
  have hcost : IsJson (.float ⟨0x3fb999999999999a⟩) := .float (by decide +kernel)
  simp [strangeRecord, IsJson.str, hlist, hcost]

theorem strange_line_decodes :
    strangeRecord.trouble = none ∧ (strangeRecord.extra.map (·.1)).Nodup ∧
      (∀ f ∈ strangeRecord.extra, IsJson f.2) ∧
      strangeRecord.text = .ok strangeRecord.message ∧
      ∃ line, machineHandler.formatter.format noon strangeRecord = .ok line ∧
        IsAsciiLine line.toList ∧
        read? line = some (objectOf [("level", .str "FORGED"),
          ("ts", .str "2024-05-06T12:00:00+00:00"), ("logger", .str "jinjaview.engine"),
          ("msg", .str strangeRecord.message), ("cost", .float ⟨0x3fb999999999999a⟩),
          ("seen", .list [.int (-3), .null, objectOf [("\"", .bool true)]])]) ∧
        ∀ before after : List Record,
          splitOn (· == '\n')
              (machineHandler.writeAll noon (before ++ strangeRecord :: after)).toList =
            (machineHandler.lines noon before).map String.toList ++
              line.toList :: (machineHandler.lines noon after).map String.toList ++ [[]] := by
  have hdistinct : (strangeRecord.extra.map (·.1)).Nodup := by simp [strangeRecord]
  have htext : strangeRecord.text = .ok strangeRecord.message := Record.text_of_no_args rfl
  obtain ⟨line, hformat, hascii, hread, hlines⟩ :=
    json_line_decodes true noon (r := strangeRecord) rfl hdistinct isJson_strangeRecord htext
  refine ⟨rfl, hdistinct, isJson_strangeRecord, htext, line, hformat, hascii, ?_, ?_⟩
  · rw [hread]
    rfl
  · exact hlines machineHandler rfl (by decide +kernel)

end Log

end DeferredViews
