import DeferredViews.Proofs.Tandem

/-!
# Turns of a render

Every turn of a render among others matches one of the same render alone: it reads the same files,
ends alike, or comes to wait for the same calls with the same page. What it leaves behind on the way
is no more than any turn may.
-/
namespace DeferredViews.View

open Deferred Files

/-- A site on which every registry gets one id. -/
def Site.withId (s : Site) (id : String) : Site :=
  { s with activity := { s.activity with ids := fun _ => id } }

/-- Where a turn among others and the same turn alone lead. -/
inductive Matched (r : Request) (s b : Site) (q p : Nat) (l : Locals) :
    Stage × Site → Stage × Site → Prop
  | ended {x : Except Stop String} {t a : Site} (h : Spares r s q b t) :
    Matched r s b q p l (.ended x, t) (.ended x, a)
  | readingLayout {name : String} {path : Path} {t a : Site}
    (h : Tandem r s b q p l (s.optionsAt r.options) t a)
    (hpath : FindsLayout s.files (s.optionsAt r.options) (extension r.path) name path) :
    Matched r s b q p l (.readingLayout q name path, t) (.readingLayout p name path, a)
  | readingPage {layout : Option Wrapping} {t a : Site}
    (h : Tandem r s b q p l (s.optionsAt r.options) t a) :
    Matched r s b q p l (.readingPage q layout, t) (.readingPage p layout, a)
  | settling {rendered : String} {calls : List Pending} {t a : Site} (h : Spares r s q b t)
    (hcalls : calls ≠ [])
    (hnames : (t.activity.registry q).names = calls.map fun c => (c.token, c.name)) :
    Matched r s b q p l (.settling q rendered 0 (.ofPending calls), t)
      (.settling p rendered 0 (.ofPending calls), a)

/-- What the cache may hold under the key of the page. -/
def KeptPage (r : Request) (s : Site) (space : Space) (key : String) (c : Compiled) : Prop :=
  space = .file → key = r.path → IsPage r s c

variable {r : Request} {s b t a : Site} {q p : Nat} {l : Locals}

theorem Matched.spares {x y : Stage × Site} (h : Matched r s b q p l x y)
    (hl : (b.optionsAt r.options).Bodied l) : Spares r s q b x.2 := by
  cases h with
  | ended h => exact h
  | readingLayout h _ => exact h.spares hl
  | readingPage h => exact h.spares hl
  | settling h _ _ => exact h

namespace Tandem

/-- A new turn begins. -/
theorem rebase {m : Locals} (h : Tandem r s b q p l m t a) : Tandem r s t q p l m t a :=
  { h with
    activity :=
      { h.activity with
        helpers := ⟨rfl, h.activity.helpers.2.trans h.activity.helpers.1.symm⟩
        ids := rfl
        length := rfl
        others := fun _ _ => rfl }
    others := fun _ _ => rfl }

/-- Up to the page, both look at the same things. -/
theorem mirror (hl : (s.optionsAt r.options).Bodied l)
    (huncached : ((s.optionsAt r.options).get? "cache").any Value.truthy = false) :
    Mirror r s.files (s.engine r.engine).autoescape (s.optionsAt r.options) (KeptPage r s)
      (fun _ : Unit => Tandem r s b q p l (s.optionsAt r.options)) where
  sameFiles h := ⟨h.kin.1.files, h.kin.2.files⟩
  sameEscape h := ⟨(h.kin.1.engines _).1.autoescape, (h.kin.2.engines _).1.autoescape⟩
  sameOptions h hname := by
    rw [h.options.1, h.options.2]
    exact ⟨hl.get? hname, rfl⟩
  sameCache h := (h.kin.1.cacheOf _).trans (h.kin.2.cacheOf _).symm
  cached h hget := by
    rintro rfl rfl
    rw [h.kin.1.cacheOf] at hget
    exact .inl hget
  notes _ _ h := { h with kin := ⟨{ h.kin.1 with }, { h.kin.2 with }⟩ }
  count h := h.setEngine ⟨Engine.alike_compiles _ _, rfl⟩ ⟨Engine.alike_compiles _ _, rfl⟩
  keeps := by
    intro w t a space key c h _
    have hcache := (h.kin.1.cacheOf r.engine).trans (h.kin.2.cacheOf r.engine).symm
    have ht := h.kin.1.setCacheOf r.engine
    have ha := h.kin.2.setCacheOf r.engine
    rw [huncached, Cache.put_disabled]
    rw [← hcache] at ha
    exact { h with kin := ⟨ht, ha⟩ }
  page hread hcompile := fun _ _ => .inr ⟨_, _, hread, hcompile, rfl⟩
  layout _ _ _ := nofun

/-- What is left once the calls are taken. -/
theorem spares_take {m : Locals} (h : Tandem r s b q p l m t a)
    (hl : (b.optionsAt r.options).Bodied l) (log : List Log.Record) :
    Spares r s q b { t with activity := (t.activity.takePending q).2, log } := by
  have hspares := h.spares hl
  refine { hspares with kin := { h.kin.1 with }, length := ?_, others := ?_ }
  · show _ ≤ (t.activity.registries.set q _).length
    rw [List.length_set]
    exact hspares.length
  · intro n hlt hn
    show (t.activity.setRegistry q _).registry n = _
    rw [t.activity.registry_setRegistry_of_ne _ (Ne.symm hn), hspares.others n hlt hn]

/-- Both take the same calls. -/
theorem closePage {m l' : Locals} (h : Tandem r s b q p l' m t a)
    (hl : (b.optionsAt r.options).Bodied l') (htimeout : (s.engine r.engine).timeout = .null)
    (rendered : String) :
    Matched r s b q p l (Stage.after (View.closePage r q rendered t))
      (Stage.after (View.closePage r p rendered a)) := by
  have hrecord := h.activity.record
  by_cases hpending : (t.activity.registry q).pending = []
  · obtain ⟨log, ht⟩ := closePage_nil r rendered hpending
    rw [hrecord] at hpending
    obtain ⟨log', ha⟩ := closePage_nil r rendered hpending
    rw [ht, ha]
    exact .ended (h.spares_take hl log)
  · have hdeadline : deadlineOf (t.engine r.engine).timeout = .ok none := by
      rw [(h.kin.1.engines r.engine).1.timeout, htimeout]
      rfl
    have hdeadline' : deadlineOf (a.engine r.engine).timeout = .ok none := by
      rw [(h.kin.2.engines r.engine).1.timeout, htimeout]
      rfl
    have ht := closePage_cons r rendered hpending
    have hpending' : (a.activity.registry p).pending ≠ [] := hrecord ▸ hpending
    have ha := closePage_cons r rendered hpending'
    rw [hdeadline] at ht
    rw [hdeadline', ← hrecord] at ha
    rw [ht, ha]
    refine .settling (h.spares_take hl t.log) hpending ?_
    show ((t.activity.setRegistry q _).registry q).names = _
    rw [t.activity.registry_setRegistry_self q _ h.activity.room.1]
    exact h.activity.names

/-- Both run their page. -/
theorem runPage (h : Tandem r s b q p l (s.optionsAt r.options) t a)
    (hrepeats : Repeats b.activity.helpers) (hroom : r.options < s.options.length)
    (hl : Finds r s l) (hb : b.optionsAt r.options = l)
    (htimeout : (s.engine r.engine).timeout = .null) {page : Compiled} (hpage : IsPage r s page)
    (layout : Option Wrapping) :
    Matched r s b q p l (Stage.after (View.runPage r q layout page t))
      (Stage.after (View.runPage r p layout page a)) := by
  obtain ⟨l', m', -, hbodied, hnext, hresult⟩ := h.pageText hrepeats hroom hl hpage layout
  rw [← hb] at hbodied
  rw [runPage_eq, runPage_eq, after_bind_apply, after_bind_apply]
  revert hnext hresult
  generalize View.pageText r q layout page t = x
  generalize View.pageText r p layout page a = y
  obtain ⟨result, t'⟩ := x
  obtain ⟨result', a'⟩ := y
  intro hnext hresult
  dsimp only at hnext hresult
  subst hresult
  cases result with
  | error e => exact .ended (hnext.spares hbodied)
  | ok rendered => exact hnext.closePage hbodied htimeout rendered

end Tandem

section Steps

variable (hrepeats : Repeats b.activity.helpers) (hroom : r.options < s.options.length)
  (hl : Finds r s l) (hb : b.optionsAt r.options = l)
  (htimeout : (s.engine r.engine).timeout = .null)
  (huncached : ((s.optionsAt r.options).get? "cache").any Value.truthy = false)

include hrepeats hroom hl hb htimeout

theorem closesLayout :
    ClosesLayout r s.files (s.optionsAt r.options) (KeptPage r s)
      (fun _ : Unit => Tandem r s b q p l (s.optionsAt r.options)) q p (Matched r s b q p l) where
  stopped _ h := .ended (h.spares (.inl hb.symm))
  ran h _ hpage := h.runPage hrepeats hroom hl hb htimeout (hpage rfl rfl) _
  readingPage h _ := .readingPage h
  readingLayout h hpath := .readingLayout h hpath

include huncached

/-- The layout has been read. -/
theorem matched_readingLayout (h : Tandem r s b q p l (s.optionsAt r.options) t a) {name : String}
    {path : Path}
    (hpath : FindsLayout s.files (s.optionsAt r.options) (extension r.path) name path) :
    Matched r s b q p l (Stage.step r (.readingLayout q name path) t)
      (Stage.step r (.readingLayout p name path) a) :=
  (Tandem.mirror hl.bodied huncached).readingLayout_post
    (closesLayout hrepeats hroom hl hb htimeout).toClosesPage hpath () t a h

/-- The page has been read. -/
theorem matched_readingPage (h : Tandem r s b q p l (s.optionsAt r.options) t a)
    (layout : Option Wrapping) :
    Matched r s b q p l (Stage.step r (.readingPage q layout) t)
      (Stage.step r (.readingPage p layout) a) :=
  (Tandem.mirror hl.bodied huncached).readingPage_post
    (closesLayout hrepeats hroom hl hb htimeout).toCloses
    (fun w _ => ⟨w.name, nofun⟩) () t a h

end Steps

/-- A render opens a registry of its own, or stops before it does. -/
theorem matched_opening (hkin : s.Kin t) (hhelpers : t.activity.helpers = s.activity.helpers)
    (hrepeats : Repeats s.activity.helpers) (hroom : r.options < s.options.length)
    (hl : Finds r s (t.optionsAt r.options)) (htimeout : (s.engine r.engine).timeout = .null)
    (huncached : ((s.optionsAt r.options).get? "cache").any Value.truthy = false) :
    Matched r s t.opened t.activity.registries.length s.activity.registries.length
        (t.optionsAt r.options) (Stage.step r .opening t)
        (Stage.step r .opening (s.withId (t.activity.ids t.activity.registries.length))) ∨
      ∃ e, Stage.step r .opening t = (.ended (.error e), t) ∧
        (Stage.step r .opening
          (s.withId (t.activity.ids t.activity.registries.length))).1 = .ended (.error e) := by
  have htandem : Tandem r s t.opened t.activity.registries.length s.activity.registries.length
      (t.optionsAt r.options) (s.optionsAt r.options) t.opened
      (s.withId (t.activity.ids t.activity.registries.length)).opened := by
    refine
      { kin := ⟨{ hkin with }, ⟨rfl, fun d => ⟨.refl _, rfl⟩, rfl, rfl⟩⟩
        activity := ⟨⟨rfl, hhelpers.symm⟩, rfl, rfl, fun _ _ => rfl, ?_, ?_, ?_⟩
        options := ⟨rfl, rfl⟩
        others := fun _ _ => rfl }
    · exact t.registry_opened.trans (s.withId _).registry_opened.symm
    · simp [Site.opened, Activity.openRegistry, Site.withId]
    · rw [t.registry_opened]
      rfl
  have hrepeats' : Repeats t.opened.activity.helpers := by
    rw [← hhelpers] at hrepeats
    exact hrepeats
  have hcloses := closesLayout (b := t.opened) (q := t.activity.registries.length)
    (p := s.activity.registries.length) hrepeats' hroom hl rfl htimeout
  have hcloses' : ClosesLayout r s.files (s.optionsAt r.options) (KeptPage r s)
      (fun _ : Unit => Tandem r s t.opened t.activity.registries.length s.activity.registries.length
        (t.optionsAt r.options) (s.optionsAt r.options))
      t.activity.registries.length s.activity.registries.length fun x y =>
        Matched r s t.opened t.activity.registries.length s.activity.registries.length
          (t.optionsAt r.options) x y ∨
        ∃ e, x = (.ended (.error e), t) ∧ y.1 = .ended (.error e) :=
    { stopped := fun e h => .inl (hcloses.stopped (w := ()) e h)
      ran := fun h hlayout hpage => .inl (hcloses.ran (w := ()) h hlayout hpage)
      readingPage := fun h hlayout => .inl (hcloses.readingPage (w := ()) h hlayout)
      readingLayout := fun h hpath => .inl (hcloses.readingLayout (w := ()) h hpath) }
  exact (Tandem.mirror hl.bodied huncached).opening_post (w := ()) (s := t)
    (t := s.withId (t.activity.ids t.activity.registries.length)) hcloses' htandem
    fun e => .inr ⟨e, rfl, rfl⟩

end DeferredViews.View
