import DeferredViews.Proofs.Inert

/-!
# What a cache holds after a history

Between renders, helpers and partials are registered with an engine, options are changed, and the
cache is cleared. Whatever is done, and however the renders end, a page in the cache is what its
path would be compiled to now, and a layout in the cache is what a file would be compiled to now
that some render of the history found and kept when it looked for a layout of that name.
-/
namespace DeferredViews.View

open Deferred Files Template

/-- What is done with an engine, one thing after the other. -/
inductive Operation where
  | render (path : String) (options : Nat)
  /-- A render that is cancelled after some stages and goes on for some more. -/
  | cancelledRender (path : String) (options stages rest : Nat)
  /-- The callers change their options. -/
  | setOptions (options : List Locals)
  | registerHelper (name : String) (h : Helper)
  | registerDeferred (name : String) (h : Helper)
  | registerPartial (name source : String)
  | clearCache

namespace Operation

/-- What an operation makes of a site. -/
def perform (e : Nat) (s : Site) : Operation → Site
  | render path options => (View.render ⟨e, path, options⟩ s).2
  | cancelledRender path options stages rest =>
    let x := runStages ⟨e, path, options⟩ stages .opening s
    (runStages ⟨e, path, options⟩ rest x.1.cancel x.2).2
  | setOptions options => { s with options }
  | registerHelper name h => s.registerHelper e name h
  | registerDeferred name h => s.registerDeferred e name h
  | registerPartial name source => s.setEngine e ((s.engine e).setPartial name source)
  | clearCache => s.setCacheOf e (s.cacheOf e).clear

/-- The render of an operation, if it is one. -/
def request? (e : Nat) : Operation → Option Request
  | render path options => some ⟨e, path, options⟩
  | cancelledRender path options _ _ => some ⟨e, path, options⟩
  | _ => none

end Operation

/-- A site after a history. -/
def Site.after (s : Site) (e : Nat) (history : List Operation) : Site :=
  history.foldl (Operation.perform e) s

/-- Where a render looks for its layout, if it keeps the layout that it finds. -/
def Request.kept? (r : Request) (s : Site) : Option Search :=
  if s.caching r then r.search? s else none

/-- Where the renders of a history look for the layouts that they keep. -/
def searches (e : Nat) : List Operation → Site → List Search
  | [], _ => []
  | op :: more, s =>
    ((op.request? e).bind (·.kept? s)).toList ++ searches e more (op.perform e s)

/-- What may stand in the cache: pages by their paths, and layouts that were found. -/
def Provenance (s₀ : Site) (e : Nat) (known : List Search) : Space → String → Compiled → Prop
  | .file, path, c => s₀.template e path = .ok c
  | .layout, name, c => ∃ x ∈ known, x.name = name ∧ ∃ path, x.file? s₀.files = .ok (some path) ∧
    s₀.template e path.text = .ok c

theorem Provenance.mono {s₀ : Site} {e : Nat} {known more : List Search}
    (h : known ⊆ more) {space : Space} {key : String} {c : Compiled}
    (hc : Provenance s₀ e known space key c) : Provenance s₀ e more space key c := by
  cases space with
  | file => exact hc
  | layout =>
    obtain ⟨x, hx, hfound⟩ := hc
    exact ⟨x, h hx, hfound⟩

/-- A site whose engine compiles as it did at the beginning, and whose cache holds nothing but what
was read and found since. -/
structure Traced (s₀ : Site) (e : Nat) (known : List Search) (s : Site) : Prop where
  files : s.files = s₀.files
  autoescape : (s.engine e).autoescape = (s₀.engine e).autoescape
  entries : ∀ space key c, ((Space.text space, key), c) ∈ (s.cacheOf e).entries →
    Provenance s₀ e known space key c

namespace Traced

variable {s₀ s t : Site} {e : Nat} {known : List Search}

theorem begin (h : (s₀.cacheOf e).entries = []) : Traced s₀ e [] s₀ := by
  refine ⟨rfl, rfl, fun space key c hmem => ?_⟩
  rw [h] at hmem
  cases hmem

theorem mono {more : List Search} (h : Traced s₀ e known s) (hmore : known ⊆ more) :
    Traced s₀ e more s :=
  { h with entries := fun space key c hmem => (h.entries space key c hmem).mono hmore }

theorem congr (h : Traced s₀ e known s) (hfiles : t.files = s.files)
    (hautoescape : (t.engine e).autoescape = (s.engine e).autoescape)
    (hcache : t.cacheOf e = s.cacheOf e) : Traced s₀ e known t where
  files := hfiles.trans h.files
  autoescape := hautoescape.trans h.autoescape
  entries := hcache ▸ h.entries

theorem aside (h : Traced s₀ e known s) (options : List Locals) (activity : Activity)
    (log : List Log.Record) : Traced s₀ e known { s with options, activity, log } :=
  h.congr rfl rfl rfl

theorem setEngine (h : Traced s₀ e known s) {n : Nat} {d : Engine}
    (hautoescape : d.autoescape = (s.engine n).autoescape) (hcache : d.cache = (s.engine n).cache) :
    Traced s₀ e known (s.setEngine n d) := by
  have hsame : ((s.setEngine n d).engine e).autoescape = (s.engine e).autoescape := by
    by_cases hne : n = e
    · subst hne
      rcases s.engine_setEngine n d with heq | heq
      · rw [heq, hautoescape]
      · rw [heq]
    · rw [s.engine_setEngine_of_ne d hne]
  exact h.congr rfl hsame (s.cacheOf_setEngine hcache e)

theorem setCacheOf (h : Traced s₀ e known s) {c : Cache Compiled}
    (hc : ∀ space key d, ((Space.text space, key), d) ∈ c.entries →
      Provenance s₀ e known space key d) : Traced s₀ e known (s.setCacheOf e c) := by
  refine { h with entries := ?_ }
  rcases s.cacheOf_setCacheOf e c with heq | heq
  · rw [heq]
    exact hc
  · rw [heq]
    exact h.entries

theorem template (h : Traced s₀ e known s) (path : String) :
    s.template e path = s₀.template e path :=
  Site.template_congr path h.files h.autoescape

end Traced

namespace Traced

variable {s₀ s : Site} {e : Nat} {known : List Search}

/-- Layouts that were found where a known search looks. -/
def Found (s₀ : Site) (known : List Search) (name : String) (path : Path) : Prop :=
  ∃ y ∈ known, y.name = name ∧ y.file? s₀.files = .ok (some path)

theorem put (h : Traced s₀ e known s) (space : Space) {key : String} {c : Compiled}
    (hc : Provenance s₀ e known space key c) (enabled : Bool) :
    Traced s₀ e known (s.setCacheOf e ((s.cacheOf e).put space.text key c enabled).2) := by
  refine h.setCacheOf fun space' key' d hmem => ?_
  rcases Cache.mem_put hmem with hmem | heq
  · exact h.entries space' key' d hmem
  · obtain ⟨hkeys, rfl⟩ := Prod.mk.inj heq
    obtain ⟨hspace, rfl⟩ := Prod.mk.inj hkeys
    rw [Space.text_injective hspace]
    exact hc

/-- A render breaks none of this if it keeps no layouts but those that were found. -/
theorem inert (s₀ : Site) (r : Request) (known : List Search) (caching : Bool) :
    Inert r (fun name path => caching = true → Found s₀ known name path)
      (fun t => Traced s₀ r.engine known t ∧ t.caching r = caching) where
  aside _ _ _ h := ⟨h.1.aside _ _ _, h.2⟩
  engine _ _ _ hd h := ⟨h.1.setEngine hd.autoescape hd.cache, h.2⟩
  body t v h := by
    refine ⟨h.1.aside _ _ _, ?_⟩
    rw [← h.2, Site.caching, Site.caching, get?_setOption_body t r.options r.options v (by decide)]
  page t c hc h := by
    rw [h.1.template] at hc
    exact ⟨h.1.put .file hc _, h.2⟩
  layout t name path c hfound hc h := by
    obtain ⟨htraced, rfl⟩ := h
    refine ⟨?_, rfl⟩
    -- A render that does not ask for caching keeps nothing, so what it found need not be known.
    cases hcaching : t.caching r with
    | false => exact htraced.setCacheOf htraced.entries
    | true =>
      obtain ⟨y, hy, hname, hfile⟩ := hfound hcaching
      rw [htraced.template] at hc
      exact htraced.put .layout ⟨y, hy, hname, path, hfile, hc⟩ true

/-- A render that begins where its search is known. -/
theorem underway {r : Request} (h : Traced s₀ r.engine known s)
    (hsearch : ∀ y, r.kept? s = some y → y ∈ known) :
    Underway r (fun name path => s.caching r = true → Found s₀ known name path)
      (fun t => Traced s₀ r.engine known t ∧ t.caching r = s.caching r) (.opening, s) := by
  refine ⟨⟨h, rfl⟩, fun _ y path hy hfile hcaching => ?_, nofun⟩
  rw [h.files] at hfile
  exact ⟨y, hsearch y ((if_pos hcaching).trans hy), rfl, hfile⟩

/-- After one operation the cache still holds nothing but what was read or found. -/
theorem perform (h : Traced s₀ e known s) (op : Operation) :
    Traced s₀ e (known ++ ((op.request? e).bind (·.kept? s)).toList) (op.perform e s) := by
  have hknown := h.mono (List.subset_append_left known
    ((op.request? e).bind (·.kept? s)).toList)
  have hsearch : ∀ r, op.request? e = some r → ∀ y, r.kept? s = some y →
      y ∈ known ++ ((op.request? e).bind (·.kept? s)).toList := by
    intro r hr y hy
    rw [hr]
    simp [hy]
  cases op with
  | render path options =>
    have hbegun := underway hknown (hsearch ⟨e, path, options⟩ rfl)
    exact (hbegun.runStages (inert s₀ _ _ _) _).holds.1
  | cancelledRender path options stages rest =>
    have hbegun := underway hknown (hsearch ⟨e, path, options⟩ rfl)
    have hcancelled := (hbegun.runStages (inert s₀ _ _ _) stages).cancel
    exact (hcancelled.runStages (inert s₀ _ _ _) rest).holds.1
  | setOptions options => exact hknown.aside _ _ _
  | registerHelper name helper => exact (hknown.aside _ _ _).setEngine rfl rfl
  | registerDeferred name helper => exact (hknown.aside _ _ _).setEngine rfl rfl
  | registerPartial name source => exact hknown.setEngine rfl rfl
  | clearCache => exact hknown.setCacheOf nofun

theorem after (h : Traced s₀ e known s) (history : List Operation) :
    Traced s₀ e (known ++ searches e history s) (s.after e history) := by
  -- What is known grows by the searches of one operation at a time.
  induction history generalizing known s with
  | nil =>
    rw [searches, List.append_nil]
    exact h
  | cons op more ih =>
    rw [searches, ← List.append_assoc]
    exact ih (h.perform op)

end Traced
end DeferredViews.View
