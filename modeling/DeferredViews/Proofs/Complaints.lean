import DeferredViews.Proofs.Precedence
import DeferredViews.Template.Compiled

/-!
# What a template is refused for

A template is read first, and its code is generated afterwards. Whatever reading complains of is the
form of the template. What generating code complains of is not the form, but that the template relies
on what does not exist, or on what it may not. So a complaint tells which of the two it comes from.
-/
namespace DeferredViews.Template

/-! ## Complaints of the lexer -/

/-- A row of tokens that ends, if it does not reach the end of the text, at a fault of form. -/
def Stream.Formal (s : Stream) : Prop := ∀ f, s.fault = some f → f.assertion = false

namespace Stream.Formal

variable {s : Stream}

theorem stop : Stream.stop.Formal := nofun

theorem refuse (line : Nat) (message : String) : (Stream.refuse line message).Formal := by
  rintro f ⟨⟩
  rfl

theorem push (h : s.Formal) (line : Nat) (t : Token) : (s.push line t).Formal := h

theorem pushData (h : s.Formal) (line : Nat) (text : List Char) :
    (Stream.pushData line text s).Formal := by
  unfold Stream.pushData
  split
  · exact h
  · exact h.push line _

end Stream.Formal

mutual

theorem formal_lexText : ∀ (fuel : Nat) (c : Cursor), (lexText fuel c).Formal
  | 0, _ => by
    rw [lexText]
    exact .stop
  | fuel + 1, c => by
    rw [lexText]
    split
    · exact .pushData .stop _ _
    · dsimp only
      split
      · exact .pushData (formal_lexRaw fuel _) _ _
      · refine .pushData ?_ _ _
        split
        · exact .push (formal_lexTag fuel _ _ _ _) _ _
        · exact .push (formal_lexTag fuel _ _ _ _) _ _
        · exact formal_lexComment fuel _

theorem formal_lexComment : ∀ (fuel : Nat) (c : Cursor), (lexComment fuel c).Formal
  | 0, _ => by
    rw [lexComment]
    exact .stop
  | fuel + 1, c => by
    rw [lexComment]
    split
    · exact formal_lexText fuel _
    · split
      · exact .stop
      · exact .refuse _ _

theorem formal_lexRaw : ∀ (fuel : Nat) (c : Cursor), (lexRaw fuel c).Formal
  | 0, _ => by
    rw [lexRaw]
    exact .stop
  | fuel + 1, c => by
    rw [lexRaw]
    split
    · exact .pushData (formal_lexText fuel _) _ _
    · split
      · exact .stop
      · exact .refuse _ _

theorem formal_lexTag : ∀ (fuel : Nat) (block : Bool) (open_ : List Char) (afterPoint : Bool)
    (c : Cursor), (lexTag fuel block open_ afterPoint c).Formal
  | 0, _, _, _, _ => by
    rw [lexTag]
    exact .stop
  | fuel + 1, block, open_, afterPoint, c => by
    rw [lexTag]
    split
    · exact .push (formal_lexText fuel _) _ _
    · split
      · exact .stop
      · split
        · exact formal_lexTag fuel _ _ _ _
        · split
          · exact .push (formal_lexTag fuel _ _ _ _) _ _
          · exact .refuse _ _

end

theorem formal_tokens (source : String) : (tokens source).Formal := formal_lexText _ _

/-! ## Complaints of the parser -/

namespace Parser

/-- A parser that fails with the fault of the text that it reads or with one of form. -/
structure Formal {α : Type} (x : Parser α) : Prop where
  kept : ∀ p a q, x p = .ok (a, q) → q.fault = p.fault
  failed : ∀ p f, x p = .error f → p.fault = some f ∨ f.assertion = false

namespace Formal

variable {α β : Type} {x y : Parser α} {f : α → Parser β}

theorem pure (a : α) : Formal (Pure.pure a) := by
  refine ⟨fun p b q h => ?_, fun p f h => nomatch h⟩
  cases h
  rfl

theorem bind (hx : Formal x) (hf : ∀ a, Formal (f a)) : Formal (x >>= f) := by
  have happly : ∀ p, (x >>= f) p = (x p).bind fun (a, q) => f a q := fun _ => rfl
  refine ⟨fun p b q h => ?_, fun p e h => ?_⟩
  · rw [happly] at h
    obtain ⟨⟨a, r⟩, ha, hrest⟩ := ok_of_bind h
    exact ((hf a).kept r b q hrest).trans (hx.kept p a r ha)
  · rw [happly] at h
    cases hp : x p with
    | error e' =>
      rw [hp] at h
      cases h
      exact hx.failed p e hp
    | ok result =>
      obtain ⟨a, r⟩ := result
      rw [hp] at h
      rw [← hx.kept p a r hp]
      exact (hf a).failed r e h

theorem map (hx : Formal x) (g : α → β) : Formal (g <$> x) := hx.bind fun a => .pure (g a)

theorem ite {c : Prop} [Decidable c] (hx : Formal x) (hy : Formal y) :
    Formal (if c then x else y) := by
  split
  · exact hx
  · exact hy

/-- What goes on after a step that is taken only if a condition does not hold. -/
theorem orStep {c : Prop} [Decidable c] (hx : Formal x) (hf : ∀ a, Formal (f a)) (a : α) :
    Formal (if c then f a else x >>= f) :=
  .ite (hf a) (.bind hx hf)

/-- What goes on after one of two steps. -/
theorem either {c : Prop} [Decidable c] (hx : Formal x) (hy : Formal y) (hf : ∀ a, Formal (f a)) :
    Formal (if c then x >>= f else y >>= f) :=
  .ite (.bind hx hf) (.bind hy hf)

theorem get : Formal (MonadState.get : Parser Progress) := by
  refine ⟨fun p a q h => ?_, fun p f h => nomatch h⟩
  cases h
  rfl

theorem modify {g : Progress → Progress} (h : ∀ p, (g p).fault = p.fault) :
    Formal (modify g) := by
  refine ⟨fun p a q hp => ?_, fun p f hp => nomatch hp⟩
  cases hp
  exact h p

theorem failAt (line : Nat) (message : String) : Formal (Parser.failAt line message : Parser α) := by
  refine ⟨fun p a q h => (nomatch h), fun p f h => ?_⟩
  cases h
  exact .inr rfl

end Formal

theorem settle_eq_ok {p q : Progress} (h : settle p = .ok q) : q = p := by
  unfold settle at h
  split at h
  · cases h
  · exact (Except.ok.inj h).symm

theorem settle_eq_error {p : Progress} {f : SyntaxFault} (h : settle p = .error f) :
    p.fault = some f := by
  unfold settle at h
  split at h
  · next hfault => exact Except.error.inj h ▸ hfault
  · cases h

/-! ### Steps -/

theorem formal_current : Formal current := .bind .get fun _ => .pure _

theorem formal_peek : Formal peek := .bind formal_current fun _ => .pure _

theorem peekNext_apply (p : Progress) :
    peekNext p = match p.lexemes, p.fault with
      | [_], some f => .error f
      | _ :: l :: _, _ => .ok (l.token, p)
      | _, _ => .ok (.eof, p) := by
  rcases p with ⟨_ | ⟨a, _ | ⟨b, rest⟩⟩, _ | f, line, openTags, awaited⟩ <;> rfl

theorem formal_peekNext : Formal peekNext := by
  refine ⟨fun p t q h => ?_, fun p f h => ?_⟩
  · rw [peekNext_apply] at h
    split at h
    · cases h
    · cases h
      rfl
    · cases h
      rfl
  · rw [peekNext_apply] at h
    split at h
    · next hfault =>
      cases h
      exact .inl hfault
    · cases h
    · cases h

theorem advance_apply (p : Progress) :
    advance p =
      match settle { p with
        lexemes := p.lexemes.tail
        line := (p.lexemes.head?.getD ⟨.eof, p.line⟩).line } with
      | .ok q => .ok (p.lexemes.head?.getD ⟨.eof, p.line⟩, q)
      | .error f => .error f := by
  show (match settle { p with
      lexemes := p.lexemes.tail
      line := (p.lexemes.head?.getD ⟨.eof, p.line⟩).line } with
    | .ok q => do set q; pure (p.lexemes.head?.getD ⟨.eof, p.line⟩)
    | .error f => do throw f; pure (p.lexemes.head?.getD ⟨.eof, p.line⟩) : Parser Lexeme) p = _
  generalize settle _ = result
  cases result <;> rfl

theorem formal_advance : Formal advance := by
  refine ⟨fun p l q h => ?_, fun p f h => ?_⟩
  · rw [advance_apply] at h
    split at h
    · next r hr =>
      cases h
      rw [settle_eq_ok hr]
    · cases h
  · rw [advance_apply] at h
    split at h
    · cases h
    · next hf =>
      cases h
      have hfault := settle_eq_error hf
      exact .inl hfault

theorem formal_fail {α : Type} (message : String) : Formal (fail message : Parser α) :=
  .bind formal_current fun _ => .failAt _ _

theorem formal_tooDeep {α : Type} : Formal (tooDeep : Parser α) := formal_fail _

theorem formal_skip (t : Token) : Formal (skip t) :=
  .bind formal_peek fun _ => .ite (.bind (formal_advance.map _) fun _ => .pure _) (.pure _)

theorem formal_expectWhere (wanted : String) (accepts : Token → Bool) :
    Formal (expectWhere wanted accepts) :=
  .bind formal_current fun _ => .ite formal_advance (.ite (.failAt _ _) (.failAt _ _))

theorem formal_expect (t : Token) : Formal (expect t) := formal_expectWhere _ _

theorem formal_expectName : Formal expectName := by
  refine .bind (formal_expectWhere _ _) fun l => ?_
  split
  · exact .pure _
  · exact .pure _

theorem formal_atTupleEnd (closers : List String) : Formal (atTupleEnd closers) := by
  refine .bind formal_peek fun t => ?_
  split <;> exact .pure _

theorem formal_strings : ∀ (fuel : Nat) (acc : String), Formal (strings fuel acc)
  | 0, _ => .pure _
  | fuel + 1, acc => by
    refine .bind formal_peek fun t => ?_
    split
    · exact .bind (formal_advance.map _) fun _ => formal_strings fuel _
    · exact .pure _

theorem formal_dottedName : ∀ (fuel : Nat) (acc : String), Formal (dottedName fuel acc)
  | 0, _ => .pure _
  | fuel + 1, _ =>
    .bind (formal_skip _) fun _ =>
      .ite (.bind formal_expectName fun _ => formal_dottedName fuel _) (.pure _)

theorem formal_sliceFrom {bound : List String → Parser (Option Expr)}
    (h : ∀ ends, Formal (bound ends)) (start : Option Expr) :
    Formal (subscript.sliceFrom bound start) := by
  refine .bind (formal_advance.map _) fun _ => .bind (h _) fun _ => .bind (formal_skip _) fun _ => ?_
  exact .ite (.bind (h _) fun _ => .pure _) (.pure _)

/-! ### Expressions

One case for each function of the grammar: it is made of steps and of calls with less fuel.
-/

mutual

theorem formal_expression : ∀ (fuel : Nat) (conditional : Bool), Formal (expression fuel conditional)
  | 0, _ => formal_tooDeep
  | fuel + 1, _ => by
    rw [expression]
    refine .bind formal_current fun _ => .bind (formal_disjunction fuel) fun _ => ?_
    exact .ite (formal_conditions fuel _ _) (.pure _)

theorem formal_conditions : ∀ (fuel line : Nat) (yes : Expr), Formal (conditions fuel line yes)
  | 0, _, _ => formal_tooDeep
  | fuel + 1, _, _ => by
    rw [conditions]
    refine .bind (formal_skip _) fun _ => .ite ?_ (.pure _)
    refine .bind (formal_disjunction fuel) fun _ => .bind (formal_skip _) fun _ => ?_
    refine .either ((formal_expression fuel _).map _) (.pure _) fun _ => ?_
    exact .bind formal_current fun _ => formal_conditions fuel _ _

theorem formal_disjunction : ∀ fuel : Nat, Formal (disjunction fuel)
  | 0 => formal_tooDeep
  | fuel + 1 => by
    rw [disjunction]
    exact .bind (formal_conjunction fuel) fun _ => formal_disjunctions fuel _

theorem formal_disjunctions : ∀ (fuel : Nat) (left : Expr), Formal (disjunctions fuel left)
  | 0, _ => formal_tooDeep
  | fuel + 1, _ => by
    rw [disjunctions]
    refine .bind (formal_skip _) fun _ => .ite ?_ (.pure _)
    exact .bind (formal_conjunction fuel) fun _ => formal_disjunctions fuel _

theorem formal_conjunction : ∀ fuel : Nat, Formal (conjunction fuel)
  | 0 => formal_tooDeep
  | fuel + 1 => by
    rw [conjunction]
    exact .bind (formal_negation fuel) fun _ => formal_conjunctions fuel _

theorem formal_conjunctions : ∀ (fuel : Nat) (left : Expr), Formal (conjunctions fuel left)
  | 0, _ => formal_tooDeep
  | fuel + 1, _ => by
    rw [conjunctions]
    refine .bind (formal_skip _) fun _ => .ite ?_ (.pure _)
    exact .bind (formal_negation fuel) fun _ => formal_conjunctions fuel _

theorem formal_negation : ∀ fuel : Nat, Formal (negation fuel)
  | 0 => formal_tooDeep
  | fuel + 1 => by
    rw [negation]
    refine .bind (formal_skip _) fun _ => .ite ?_ ?_
    · exact .bind (formal_negation fuel) fun _ => .pure _
    · exact .bind (formal_sum fuel) fun _ => .bind (formal_comparisons fuel) fun _ => .pure _

theorem formal_comparisons : ∀ fuel : Nat, Formal (comparisons fuel)
  | 0 => formal_tooDeep
  | fuel + 1 => by
    rw [comparisons]
    have hmore : ∀ r : Relation, Formal (do
        let e ← sum fuel
        return (r, e) :: (← comparisons fuel)) := fun _ =>
      .bind (formal_sum fuel) fun _ => .bind (formal_comparisons fuel) fun _ => .pure _
    refine .bind formal_peek fun t => ?_
    split
    · exact .bind (formal_advance.map _) fun _ => hmore _
    · refine .ite (.bind (formal_advance.map _) fun _ => hmore _) (.ite ?_ (.pure _))
      refine .bind formal_peekNext fun _ => .ite ?_ (.pure _)
      exact .bind (formal_advance.map _) fun _ => .bind (formal_advance.map _) fun _ => hmore _

theorem formal_sum : ∀ fuel : Nat, Formal (sum fuel)
  | 0 => formal_tooDeep
  | fuel + 1 => by
    rw [sum]
    exact .bind (formal_joined fuel) fun _ => formal_sums fuel _

theorem formal_sums : ∀ (fuel : Nat) (left : Expr), Formal (sums fuel left)
  | 0, _ => formal_tooDeep
  | fuel + 1, _ => by
    rw [sums]
    refine .bind formal_peek fun _ => ?_
    split
    · exact .bind (formal_advance.map _) fun _ =>
        .bind (formal_joined fuel) fun _ => formal_sums fuel _
    · exact .pure _

theorem formal_joined : ∀ fuel : Nat, Formal (joined fuel)
  | 0 => formal_tooDeep
  | fuel + 1 => by
    rw [joined]
    exact .bind (formal_product fuel) fun _ => .bind (formal_joins fuel) fun _ => .pure _

theorem formal_joins : ∀ fuel : Nat, Formal (joins fuel)
  | 0 => formal_tooDeep
  | fuel + 1 => by
    rw [joins]
    refine .bind (formal_skip _) fun _ => .ite ?_ (.pure _)
    exact .bind (formal_product fuel) fun _ => .bind (formal_joins fuel) fun _ => .pure _

theorem formal_product : ∀ fuel : Nat, Formal (product fuel)
  | 0 => formal_tooDeep
  | fuel + 1 => by
    rw [product]
    exact .bind (formal_signed fuel _) fun _ =>
      .bind (formal_powers fuel _) fun _ => formal_products fuel _

theorem formal_products : ∀ (fuel : Nat) (left : Expr), Formal (products fuel left)
  | 0, _ => formal_tooDeep
  | fuel + 1, _ => by
    rw [products]
    refine .bind formal_peek fun _ => ?_
    split
    · exact .bind (formal_advance.map _) fun _ => .bind (formal_signed fuel _) fun _ =>
        .bind (formal_powers fuel _) fun _ => formal_products fuel _
    · exact .pure _

theorem formal_powers : ∀ (fuel : Nat) (left : Expr), Formal (powers fuel left)
  | 0, _ => formal_tooDeep
  | fuel + 1, _ => by
    rw [powers]
    refine .bind (formal_skip _) fun _ => .ite ?_ (.pure _)
    exact .bind (formal_signed fuel _) fun _ => formal_powers fuel _

theorem formal_signed : ∀ (fuel : Nat) (filtered : Bool), Formal (signed fuel filtered)
  | 0, _ => formal_tooDeep
  | fuel + 1, filtered => by
    rw [signed]
    have hrest : ∀ e : Expr, Formal (do
        let e ← postfixes fuel e
        if filtered then filters fuel e else return e) := fun _ =>
      .bind (formal_postfixes fuel _) fun _ => .ite (formal_filters fuel _) (.pure _)
    have hsign : ∀ negative : Bool, Formal (do
        let e ← pure (Expr.sign negative (← signed fuel false))
        let e ← postfixes fuel e
        if filtered then filters fuel e else return e) := fun _ =>
      .bind (formal_signed fuel _) fun _ => .bind (.pure _) hrest
    refine .bind (formal_skip _) fun _ => .ite (hsign true) ?_
    exact .bind (formal_skip _) fun _ => .ite (hsign false) (.bind (formal_primary fuel) hrest)

theorem formal_primary : ∀ fuel : Nat, Formal (primary fuel)
  | 0 => formal_tooDeep
  | fuel + 1 => by
    rw [primary]
    refine .bind formal_current fun l => ?_
    split
    · exact .bind (formal_advance.map _) fun _ => .pure _
    · exact .bind (formal_advance.map _) fun _ => .bind (formal_strings fuel _) fun _ => .pure _
    · exact .bind (formal_advance.map _) fun _ => .pure _
    · exact .bind (formal_advance.map _) fun _ => .pure _
    · exact .bind (formal_advance.map _) fun _ => .bind (formal_tupleOf fuel _) fun _ =>
        .bind ((formal_expect _).map _) fun _ => .pure _
    · exact .bind (formal_advance.map _) fun _ => .bind (formal_listItems fuel _) fun _ => .pure _
    · exact .bind (formal_advance.map _) fun _ => .bind (formal_dictItems fuel _) fun _ => .pure _
    · exact .failAt _ _

theorem formal_tupleOf : ∀ (fuel : Nat) (style : TupleStyle), Formal (tupleOf fuel style)
  | 0, _ => formal_tooDeep
  | fuel + 1, _ => by
    rw [tupleOf]
    refine .bind (formal_tupleItems fuel _ _) fun found => ?_
    split
    split
    · exact .pure _
    · exact .ite (.pure _) (.bind formal_peek fun _ => formal_fail _)
    · exact .pure _

theorem formal_tupleItems : ∀ (fuel : Nat) (style : TupleStyle) (first : Bool),
    Formal (tupleItems fuel style first)
  | 0, _, _ => formal_tooDeep
  | fuel + 1, _, _ => by
    rw [tupleItems]
    refine .orStep ((formal_expect _).map _) (fun _ => ?_) ()
    refine .bind (formal_atTupleEnd _) fun _ => .ite (.pure _) ?_
    refine .either (formal_primary fuel) (formal_expression fuel _) fun _ => ?_
    refine .bind formal_peek fun _ => .ite ?_ (.pure _)
    exact .bind (formal_tupleItems fuel _ _) fun _ => .pure _

theorem formal_listItems : ∀ (fuel : Nat) (first : Bool), Formal (listItems fuel first)
  | 0, _ => formal_tooDeep
  | fuel + 1, _ => by
    rw [listItems]
    refine .bind (formal_skip _) fun _ => .ite (.pure _) ?_
    refine .orStep ((formal_expect _).map _) (fun _ => ?_) ()
    refine .bind (formal_skip _) fun _ => .ite (.pure _) ?_
    exact .bind (formal_expression fuel _) fun _ => .bind (formal_listItems fuel _) fun _ => .pure _

theorem formal_dictItems : ∀ (fuel : Nat) (first : Bool), Formal (dictItems fuel first)
  | 0, _ => formal_tooDeep
  | fuel + 1, _ => by
    rw [dictItems]
    refine .bind (formal_skip _) fun _ => .ite (.pure _) ?_
    refine .orStep ((formal_expect _).map _) (fun _ => ?_) ()
    refine .bind (formal_skip _) fun _ => .ite (.pure _) ?_
    refine .bind (formal_expression fuel _) fun _ => .bind ((formal_expect _).map _) fun _ => ?_
    exact .bind (formal_expression fuel _) fun _ => .bind (formal_dictItems fuel _) fun _ => .pure _

theorem formal_postfixes : ∀ (fuel : Nat) (e : Expr), Formal (postfixes fuel e)
  | 0, _ => formal_tooDeep
  | fuel + 1, _ => by
    rw [postfixes]
    refine .bind formal_peek fun _ => ?_
    split
    · refine .bind (formal_advance.map _) fun _ => .bind formal_current fun l => ?_
      split
      · exact .bind (formal_advance.map _) fun _ => formal_postfixes fuel _
      · exact .bind (formal_advance.map _) fun _ => formal_postfixes fuel _
      · exact .bind (formal_advance.map _) fun _ => .failAt _ _
    · refine .bind (formal_advance.map _) fun _ => .bind (formal_subscripts fuel _) fun keys => ?_
      split
      · exact formal_postfixes fuel _
      · exact formal_postfixes fuel _
    · exact .bind (formal_arguments fuel) fun _ => formal_postfixes fuel _
    · exact .pure _

theorem formal_subscripts : ∀ (fuel : Nat) (first : Bool), Formal (subscripts fuel first)
  | 0, _ => formal_tooDeep
  | fuel + 1, _ => by
    rw [subscripts]
    refine .bind (formal_skip _) fun _ => .ite (.pure _) ?_
    refine .orStep ((formal_expect _).map _) (fun _ => ?_) ()
    exact .bind (formal_subscript fuel) fun _ => .bind (formal_subscripts fuel _) fun _ => .pure _

theorem formal_subscript : ∀ fuel : Nat, Formal (subscript fuel)
  | 0 => formal_tooDeep
  | fuel + 1 => by
    rw [subscript]
    have hbound : ∀ ends : List String, Formal (do
        match ← peek with
        | .symbol s => if ends.contains s then return none else some <$> expression fuel true
        | _ => some <$> expression fuel true : Parser (Option Expr)) := by
      intro ends
      refine .bind formal_peek fun t => ?_
      split
      · exact .ite (.pure _) ((formal_expression fuel _).map _)
      · exact (formal_expression fuel _).map _
    refine .bind (hbound _) fun start => .bind formal_peek fun t => ?_
    split
    · exact .ite (formal_sliceFrom hbound _) (.pure _)
    · exact formal_sliceFrom hbound _

theorem formal_arguments : ∀ fuel : Nat, Formal (arguments fuel)
  | 0 => formal_tooDeep
  | fuel + 1 => by
    rw [arguments]
    exact .bind (formal_expect _) fun _ => formal_argumentItems fuel _ _

theorem formal_argumentItems : ∀ (fuel line : Nat) (seen : List Arg),
    Formal (argumentItems fuel line seen)
  | 0, _, _ => formal_tooDeep
  | fuel + 1, line, _ => by
    rw [argumentItems]
    have hensure : ∀ ok : Bool, Formal (if ok then return () else
        failAt line "invalid syntax for function call expression" : Parser Unit) := fun _ =>
      .ite (.pure _) (.failAt _ _)
    have hnext : ∀ arg : Expr → List Arg, Formal (do
        argumentItems fuel line (arg (← expression fuel true))) := fun _ =>
      .bind (formal_expression fuel _) fun _ => formal_argumentItems fuel line _
    refine .bind (formal_skip _) fun _ => .ite (.pure _) ?_
    refine .orStep ((formal_expect _).map _) (fun _ => ?_) ()
    refine .bind (formal_skip _) fun _ => .ite (.pure _) ?_
    refine .bind formal_peek fun _ => ?_
    split
    · exact .bind (hensure _) fun _ => .bind (formal_advance.map _) fun _ => hnext _
    · exact .bind (hensure _) fun _ => .bind (formal_advance.map _) fun _ => hnext _
    · refine .bind formal_peekNext fun _ => .ite ?_ (.bind (hensure _) fun _ => hnext _)
      exact .bind (hensure _) fun _ => .bind (formal_advance.map _) fun _ =>
        .bind (formal_advance.map _) fun _ => hnext _
    · exact .bind (hensure _) fun _ => hnext _

theorem formal_filters : ∀ (fuel : Nat) (e : Expr), Formal (filters fuel e)
  | 0, _ => formal_tooDeep
  | fuel + 1, _ => by
    rw [filters]
    refine .bind formal_peek fun _ => ?_
    split
    · refine .bind (formal_advance.map _) fun _ => .bind formal_expectName fun _ => ?_
      refine .bind (formal_dottedName fuel _) fun _ => .bind formal_peek fun _ => ?_
      exact .either (formal_arguments fuel) (.pure _) fun _ => formal_filters fuel _
    · refine .bind (formal_advance.map _) fun _ => .bind (formal_skip _) fun _ => ?_
      refine .bind formal_expectName fun _ => .bind (formal_dottedName fuel _) fun _ => ?_
      exact .bind (formal_testArguments fuel) fun _ => formal_filters fuel _
    · exact .bind (formal_arguments fuel) fun _ => formal_filters fuel _
    · exact .pure _

theorem formal_testArguments : ∀ fuel : Nat, Formal (testArguments fuel)
  | 0 => formal_tooDeep
  | fuel + 1 => by
    rw [testArguments]
    have hsingle : Formal (do
        let e ← postfixes fuel (← primary fuel)
        return [Arg.value e]) :=
      .bind (formal_primary fuel) fun _ => .bind (formal_postfixes fuel _) fun _ => .pure _
    refine .bind formal_peek fun _ => ?_
    split
    · exact formal_arguments fuel
    · exact .ite (.pure _) (.ite (formal_fail _) hsingle)
    · exact hsingle
    · exact hsingle
    · exact hsingle
    · exact .ite hsingle (.pure _)
    · exact .pure _

end

/-! ### Statements -/

theorem formal_target (fuel : Nat) (closers : List String) : Formal (target fuel closers) := by
  refine .bind formal_current fun _ => .bind (formal_tupleOf fuel _) fun _ => ?_
  split
  · exact .pure _
  · exact .failAt _ _

theorem formal_misplaced {α : Type} (name : Option String) (awaited : List (List String))
    (line : Nat) : Formal (misplaced name awaited line : Parser α) :=
  .bind .get fun _ => .failAt _ _

theorem formal_pair (first : List String) (second : String) :
    Formal (inclusion.pair first second) := by
  refine .bind formal_peek fun t => ?_
  split
  · refine .ite (.bind formal_peekNext fun _ => .ite ?_ (.pure _)) (.pure _)
    exact .bind (formal_advance.map _) fun _ => .bind (formal_advance.map _) fun _ => .pure _
  · exact .pure _

mutual

theorem formal_statements : ∀ (fuel : Nat) (ends : List String), Formal (statements fuel ends)
  | 0, _ => formal_tooDeep
  | fuel + 1, ends => by
    rw [statements]
    refine .bind formal_peek fun t => ?_
    split
    · exact .pure _
    · exact .bind (formal_advance.map _) fun _ => .bind (formal_statements fuel _) fun _ => .pure _
    · refine .bind (formal_advance.map _) fun _ => .bind (formal_tupleOf fuel _) fun _ => ?_
      exact .bind ((formal_expect _).map _) fun _ =>
        .bind (formal_statements fuel _) fun _ => .pure _
    · have hrest : ∀ here : Bool, Formal (do
          if here then return []
          let s ← statement fuel
          discard (expect .blockEnd)
          return s :: (← statements fuel ends) : Parser (List Stmt)) := by
        refine fun _ => .ite (.pure _) (.bind (formal_statement fuel) fun _ => ?_)
        exact .bind ((formal_expect _).map _) fun _ =>
          .bind (formal_statements fuel _) fun _ => .pure _
      refine .bind (formal_advance.map _) fun _ => .bind formal_peek fun u => ?_
      split
      · exact .bind (.pure _) hrest
      · exact .bind (.pure _) hrest

theorem formal_body : ∀ (fuel : Nat) (ends : List String), Formal (body fuel ends)
  | 0, _ => formal_tooDeep
  | fuel + 1, ends => by
    rw [body]
    refine .bind ((formal_skip _).map _) fun _ => .bind ((formal_expect _).map _) fun _ => ?_
    refine .bind (.modify fun _ => rfl) fun _ => .bind (formal_statements fuel _) fun _ => ?_
    refine .bind (.modify fun _ => rfl) fun _ => .bind formal_peek fun _ => .ite ?_ (.pure _)
    refine .bind .get fun _ => .bind formal_current fun _ => ?_
    exact .bind (formal_misplaced _ _ _) fun _ => .pure _

theorem formal_statement : ∀ fuel : Nat, Formal (statement fuel)
  | 0 => formal_tooDeep
  | fuel + 1 => by
    rw [statement]
    have hclosed : ∀ s : Stmt, Formal (do
        modify fun p => { p with openTags := p.openTags.tail }
        return s) := fun _ => .bind (.modify fun _ => rfl) fun _ => .pure _
    refine .bind formal_current fun l => ?_
    split
    · refine .ite ?_ (.bind .get fun _ => formal_misplaced _ _ _)
      refine .bind (.modify fun _ => rfl) fun _ => .bind (formal_advance.map _) fun _ => ?_
      refine .ite (.bind (formal_loop fuel) hclosed) (.ite ?_ (.ite ?_ ?_))
      · exact .bind (formal_branches fuel) fun _ => .bind (.pure _) hclosed
      · exact .bind (formal_assignment fuel) hclosed
      · exact .bind (formal_inclusion fuel) hclosed
    · exact .failAt _ _

theorem formal_loop : ∀ fuel : Nat, Formal (loop fuel)
  | 0 => formal_tooDeep
  | fuel + 1 => by
    rw [loop]
    refine .bind (formal_target fuel _) fun _ => .bind ((formal_expect _).map _) fun _ => ?_
    refine .bind (formal_tupleOf fuel _) fun _ => .bind (formal_skip _) fun _ => ?_
    refine .either ((formal_expression fuel _).map _) (.pure _) fun _ => ?_
    refine .bind ((formal_skip _).map _) fun _ => .bind (formal_body fuel _) fun _ => ?_
    refine .bind formal_advance fun _ => .ite (.pure _) ?_
    exact .bind (formal_body fuel _) fun _ => .bind (formal_advance.map _) fun _ => .pure _

theorem formal_branches : ∀ fuel : Nat, Formal (branches fuel)
  | 0 => formal_tooDeep
  | fuel + 1 => by
    rw [branches]
    refine .bind (formal_tupleOf fuel _) fun _ => .bind (formal_body fuel _) fun _ => ?_
    refine .bind formal_advance fun _ => .ite ?_ (.ite ?_ (.pure _))
    · exact .bind (formal_branches fuel) fun _ => .pure _
    · exact .bind (formal_body fuel _) fun _ => .bind (formal_advance.map _) fun _ => .pure _

theorem formal_assignment : ∀ fuel : Nat, Formal (assignment fuel)
  | 0 => formal_tooDeep
  | fuel + 1 => by
    rw [assignment]
    refine .bind (formal_target fuel _) fun _ => .bind (formal_skip _) fun _ => .ite ?_ ?_
    · exact .bind (formal_tupleOf fuel _) fun _ => .pure _
    · exact .bind (formal_body fuel _) fun _ => .bind (formal_advance.map _) fun _ => .pure _

theorem formal_inclusion : ∀ fuel : Nat, Formal (inclusion fuel)
  | 0 => formal_tooDeep
  | fuel + 1 => by
    rw [inclusion]
    refine .bind (formal_expression fuel _) fun _ => .bind (formal_pair _ _) fun _ => ?_
    exact .bind formal_peek fun _ => .bind (formal_pair _ _) fun _ => .pure _

end

end Parser

/-- Whatever a source is refused for when it is read, it is its form. -/
theorem parse_error_assertion {source : String} {f : SyntaxFault} (h : parse source = .error f) :
    f.assertion = false := by
  have htokens : ∀ f, (tokens source).fault = some f → f.assertion = false := formal_tokens source
  rw [parse] at h
  split at h
  · next hsettle =>
    cases h
    exact htokens f (Parser.settle_eq_error hsettle)
  · next p hsettle =>
    obtain rfl := Parser.settle_eq_ok hsettle
    cases hbody : Parser.statements (20 * ((tokens source).lexemes.length + 2)) []
        ⟨(tokens source).lexemes, (tokens source).fault, 1, [], []⟩ with
    | ok result =>
      rw [hbody] at h
      cases h
    | error g =>
      rw [hbody] at h
      cases h
      exact ((Parser.formal_statements _ _).failed _ _ hbody).elim (htokens f) id

/-! ## Complaints of the check -/

/-- A check that leaves the form of a template alone. -/
def Asserts (x : Except SyntaxFault Unit) : Prop := ∀ f, x = .error f → f.assertion = true

namespace Asserts

variable {x y : Except SyntaxFault Unit}

theorem ok : Asserts (.ok ()) := nofun

theorem bind (hx : Asserts x) (hy : Asserts y) : Asserts (x >>= fun _ => y) := by
  intro f h
  cases x with
  | error e =>
    cases h
    exact hx f rfl
  | ok u => exact hy f h

theorem ite {c : Prop} [Decidable c] (hx : Asserts x) (hy : Asserts y) :
    Asserts (if c then x else y) := by
  split
  · exact hx
  · exact hy

theorem refuse (message : String) (line : Nat) : Asserts (.error ⟨message, line, true⟩) := by
  rintro f ⟨⟩
  rfl

theorem requireName (late : Bool) (kind : String) (known : Bool) (name : String) :
    Asserts (Template.requireName late kind known name) := .ite .ok (.refuse _ _)

end Asserts

mutual

theorem asserts_expr (late : Bool) : ∀ e : Expr, Asserts (e.check late)
  | .const _ | .name _ | .cond .. => .ok
  | .tuple items | .list items | .concat items => asserts_all late items
  | .dict entries => asserts_entries late entries
  | .attr e _ | .not e | .sign _ e => asserts_expr late e
  | .element e key => .bind (asserts_expr late e) (asserts_expr late key)
  | .slice a b c => .bind (asserts_bound late a)
      (.bind (asserts_bound late b) (asserts_bound late c))
  | .call f args => .bind (asserts_expr late f) (asserts_arguments late args)
  | .filter e name args => .bind (.requireName late _ _ name)
      (.bind (asserts_expr late e) (asserts_arguments late args))
  | .test e name args => .bind (.requireName late _ _ name)
      (.bind (asserts_expr late e) (asserts_arguments late args))
  | .arithmetic _ a b | .and a b | .or a b =>
    .bind (asserts_expr late a) (asserts_expr late b)
  | .compare first rest => .bind (asserts_expr late first) (asserts_chain late rest)

theorem asserts_all (late : Bool) : ∀ es : List Expr, Asserts (checkAll late es)
  | [] => .ok
  | e :: more => .bind (asserts_expr late e) (asserts_all late more)

theorem asserts_entries (late : Bool) :
    ∀ es : List (Expr × Expr), Asserts (checkEntries late es)
  | [] => .ok
  | (k, v) :: more => .bind (asserts_expr late k)
      (.bind (asserts_expr late v) (asserts_entries late more))

theorem asserts_bound (late : Bool) : ∀ e : Option Expr, Asserts (checkBound late e)
  | none => .ok
  | some e => asserts_expr late e

theorem asserts_arguments (late : Bool) :
    ∀ args : List Arg, Asserts (checkArguments late args)
  | [] => .ok
  | .value e :: more | .keyword _ e :: more | .spread e :: more | .spreadKeywords e :: more =>
    .bind (asserts_expr late e) (asserts_arguments late more)

theorem asserts_chain (late : Bool) :
    ∀ rest : List (Relation × Expr), Asserts (checkChain late rest)
  | [] => .ok
  | (_, e) :: more => .bind (asserts_expr late e) (asserts_chain late more)

end

mutual

theorem asserts_stmt (late : Bool) : ∀ s : Stmt, Asserts (s.check late)
  | .text _ => .ok
  | .print e | .assign _ e | .embed e _ _ => asserts_expr late e
  | .choose branches otherwise => .bind (asserts_branches branches)
      (asserts_statements true otherwise)
  | .each target source condition body otherwise => by
    rw [Stmt.check]
    have hrest : Asserts (do
        source.check late
        checkStatements false body
        checkStatements false otherwise) :=
      .bind (asserts_expr late source)
        (.bind (asserts_statements false body) (asserts_statements false otherwise))
    refine .bind (asserts_bound false condition) ?_
    exact .ite (.bind (.refuse _ _) hrest) hrest
  | .capture _ body => asserts_statements false body

theorem asserts_statements (late : Bool) :
    ∀ body : List Stmt, Asserts (checkStatements late body)
  | [] => .ok
  | s :: more => .bind (asserts_stmt late s) (asserts_statements late more)

theorem asserts_branches :
    ∀ branches : List (Expr × List Stmt), Asserts (checkBranches branches)
  | [] => .ok
  | (e, body) :: more => .bind (asserts_expr true e)
      (.bind (asserts_statements true body) (asserts_branches more))

end

/-! ## Both together -/

theorem asserts_generate (autoescape : Bool) (name : Option String) (tree : List Stmt)
    {f : SyntaxFault} (h : generate autoescape name tree = .error f) : f.assertion = true := by
  have hgenerate : generate autoescape name tree =
      (checkStatements false (foldStatements autoescape tree)).map fun _ =>
        ⟨name, foldStatements autoescape tree⟩ := by
    rw [generate]
    cases checkStatements false (foldStatements autoescape tree) <;> rfl
  rw [hgenerate] at h
  cases hcheck : checkStatements false (foldStatements autoescape tree) with
  | ok u =>
    rw [hcheck] at h
    cases h
  | error g =>
    rw [hcheck] at h
    cases h
    exact asserts_statements false _ f hcheck

namespace Language

variable {Tree Code : Type}

/-- A language in which reading settles the form of a template: whether printed values are escaped
is of no matter to it, and what generating code refuses is not the form. -/
structure Staged (l : Language Tree Code) : Prop where
  read_eq : ∀ (a b : Bool) (source : String), l.read a source = l.read b source
  assertion_of_generate : ∀ (autoescape : Bool) (name : Option String) (tree : Tree)
    (f : SyntaxFault), l.generate autoescape name tree = .error (.syntaxError f) →
      f.assertion = true

theorem mapError_eq_error {ε ε' α : Type} {x : Except ε α} {g : ε → ε'} {e' : ε'}
    (h : x.mapError g = .error e') : ∃ e, x = .error e ∧ g e = e' := by
  cases x with
  | ok a => cases h
  | error e => exact ⟨e, rfl, Except.error.inj h⟩

theorem standard_staged : standard.Staged where
  read_eq _ _ _ := rfl
  assertion_of_generate autoescape name tree f h := by
    obtain ⟨g, hg, hsame⟩ := mapError_eq_error h
    cases hsame
    exact asserts_generate autoescape name tree hg

/-- Whatever a source of the standard language is refused for when it is read, it is its form. -/
theorem standard_read_formal {autoescape : Bool} {source : String} {f : SyntaxFault}
    (h : standard.read autoescape source = .error (.syntaxError f)) : f.assertion = false := by
  obtain ⟨g, hg, hsame⟩ := mapError_eq_error h
  cases hsame
  exact parse_error_assertion hg

end Language

end DeferredViews.Template
