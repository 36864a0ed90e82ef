import DeferredViews.Proofs.LayoutChoice

/-!
# The cache cannot be seen

Where all renders look in the same place for layouts of one name, a render comes to what it would
come to with an empty cache: to the page that its path is compiled to now, in the layout that it
finds itself, with the helpers and the partials that the engine knows by now.
-/
namespace DeferredViews.View

open Deferred Files Template

namespace Site

variable (s : Site) (e : Nat) (c : Cache Compiled)

theorem template_setCacheOf (d : Nat) (path : String) :
    (s.setCacheOf e c).template d path = s.template d path :=
  template_congr path rfl rfl

theorem ownLayout_setCacheOf (r : Request) :
    (s.setCacheOf e c).ownLayout r = s.ownLayout r := by
  have hfound := foundLayout_congr (s := s) (t := s.setCacheOf e c) (r := r) rfl rfl rfl
  rw [ownLayout, ownLayout]
  simp only [hfound]
  rfl

/-- No page and no layout looks into the cache when it runs. -/
theorem printed_setCacheOf (r : Request) (layout : Option Wrapping) (page : Compiled) :
    (s.setCacheOf e c).printed r layout page = s.printed r layout page :=
  printed_of_peers (((Near.refl s.opened).setCacheOf e c).peers s.room_opened) r layout page

end Site

/-- What a render comes to where all have looked in the same place. -/
theorem Traced.render_eq {s₀ s : Site} {known : List Search} {r : Request}
    (h : Traced s₀ r.engine known s)
    (hagrees : ∀ x ∈ known, ∀ y, r.search? s = some y → x.Agrees y) :
    (render r s).1 = (s.ownLayout r).bind fun layout =>
      (s.template r.engine r.path).bind (s.printed r layout) := by
  rw [View.render_eq, h.layoutFor_eq hagrees, h.pageFor]

/-- After any history that began with an empty cache, a render comes to the same as it would with
the cache cleared before it, if all renders that kept a layout of its name looked for it where this
one looks. -/
theorem render_cache_transparent (r : Request) (s₀ : Site)
    (hempty : (s₀.cacheOf r.engine).entries = []) (history : List Operation)
    (hagrees : ∀ x ∈ searches r.engine history s₀, ∀ y,
      r.search? (s₀.after r.engine history) = some y → x.Agrees y) :
    (render r (s₀.after r.engine history)).1 =
        (render r (s₀.after r.engine (history ++ [.clearCache]))).1 ∧
      (render r (s₀.after r.engine history)).1 =
        ((s₀.after r.engine history).ownLayout r).bind fun layout =>
          ((s₀.after r.engine history).template r.engine r.path).bind
            ((s₀.after r.engine history).printed r layout) := by
  have htraced := (Traced.begin hempty).after history
  rw [List.nil_append] at htraced
  have hrender := htraced.render_eq hagrees
  refine ⟨?_, hrender⟩
  rw [Site.after_append]
  -- A cleared cache holds nothing that was not read or found, so both renders come to a value that
  -- is told without the cache.
  generalize s₀.after r.engine history = s at htraced hagrees hrender ⊢
  have hcleared : (render r (s.setCacheOf r.engine (s.cacheOf r.engine).clear)).1 =
      ((s.setCacheOf r.engine (s.cacheOf r.engine).clear).ownLayout r).bind fun layout =>
        ((s.setCacheOf r.engine (s.cacheOf r.engine).clear).template r.engine r.path).bind
          ((s.setCacheOf r.engine (s.cacheOf r.engine).clear).printed r layout) := by
    refine Traced.render_eq (htraced.setCacheOf nofun) ?_
    exact hagrees
  calc (render r s).1
      = (s.ownLayout r).bind fun layout =>
          (s.template r.engine r.path).bind (s.printed r layout) := hrender
    _ = (render r (s.setCacheOf r.engine (s.cacheOf r.engine).clear)).1 := by
        rw [hcleared, Site.ownLayout_setCacheOf, Site.template_setCacheOf]
        congr 1
        funext layout
        congr 1
        funext page
        exact (s.printed_setCacheOf r.engine _ r layout page).symm

/-- A page that is rendered once more, with a partial registered in between. -/
theorem render_again_with_partial :
    (twoKinds.cacheOf 0).entries = [] ∧
      (∀ x ∈ searches 0 [.render "/v/index.html" 1, .registerPartial "nav" "<nav>"] twoKinds, ∀ y,
        Request.search? ⟨0, "/v/index.html", 1⟩
          (twoKinds.after 0 [.render "/v/index.html" 1, .registerPartial "nav" "<nav>"]) = some y →
        x.Agrees y) ∧
      (render ⟨0, "/v/index.html", 1⟩
          (twoKinds.after 0 [.render "/v/index.html" 1, .registerPartial "nav" "<nav>"])).1 =
        (render ⟨0, "/v/index.html", 1⟩
          (twoKinds.after 0 [.render "/v/index.html" 1, .registerPartial "nav" "<nav>",
            .clearCache])).1 := by
  have hagrees : ∀ x ∈ searches 0 [.render "/v/index.html" 1, .registerPartial "nav" "<nav>"]
      twoKinds, ∀ y, Request.search? ⟨0, "/v/index.html", 1⟩
        (twoKinds.after 0 [.render "/v/index.html" 1, .registerPartial "nav" "<nav>"]) = some y →
      x.Agrees y := by
    intro x hx y hy
    have hsame := (search?_after_render ⟨0, "/v/index.html", 1⟩ "/v/index.html" 1 twoKinds).symm.trans
      hy
    rw [mem_searches_render hx] at hsame
    cases hsame
    exact fun _ => ⟨rfl, rfl⟩
  exact ⟨rfl, hagrees,
    (render_cache_transparent ⟨0, "/v/index.html", 1⟩ twoKinds rfl _ hagrees).1⟩

end DeferredViews.View
