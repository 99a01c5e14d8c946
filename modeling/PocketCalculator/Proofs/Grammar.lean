import PocketCalculator.Expression.Tree
import PocketCalculator.Proofs.Numerals

/-!
# The grammar of expressions

A tree can be printed in more ways than one: parentheses stand where the grammar
needs them, and they may stand around any other part as well.  This module gives
the grammar as a relation between trees and lists of tokens that counts the
factors open at once, independent of any way to read.

Main definitions:

- {lit}`Expr.Prints` relates a tree, its tokens and the number of open factors.
- {lit}`Expr.names` lists the names that a tree calls.

Main results:

- Theorem {lit}`Expr.prints_tokens`: the printed form without needless parentheses is
  one of the forms of the grammar, and {lit}`Expr.openFactors` counts for it.
- Theorem {lit}`Expr.bare_of_prints`: two printed forms of a tree differ in parentheses
  only.
- Theorem {lit}`Expr.isProper_of_prints`: a printed tree consists of proper tokens.
-/

namespace PocketCalculator

namespace Expr

/-! ## Names -/

/-- The names that a tree calls, from left to right. -/
def names : Expr → List Text
  | literal _ => []
  | plus e => e.names
  | minus e => e.names
  | binary _ left right => left.names ++ right.names
  | power base exponent => base.names ++ exponent.names
  | call name argument => name :: argument.names

/-! ## Printed forms -/

/-- {lit}`Prints least e tokens count` says that the tokens print the tree where a
binding of at least {lit}`least` is asked for, and that {lit}`count` factors are open
at once while they are read.  Every tree may stand in parentheses. -/
inductive Prints : Binding → Expr → List Token → Nat → Prop
  | literal (l : Literal) : Prints .base (.literal l) [.number l.run] 1
  | parentheses {e : Expr} {tokens : List Token} {count : Nat}
      (inner : Prints .sum e tokens count) :
      Prints .base e (parenthesized tokens) (count + 1)
  | plus {e : Expr} {tokens : List Token} {count : Nat}
      (operand : Prints .factor e tokens count) :
      Prints .factor (.plus e) (.mark '+' :: tokens) (count + 1)
  | minus {e : Expr} {tokens : List Token} {count : Nat}
      (operand : Prints .factor e tokens count) :
      Prints .factor (.minus e) (.mark '-' :: tokens) (count + 1)
  | power {e f : Expr} {tokens tokens' : List Token} {count count' : Nat}
      (base : Prints .base e tokens count) (exponent : Prints .factor f tokens' count') :
      Prints .factor (.power e f) (tokens ++ .mark '^' :: tokens') (max count (count' + 1))
  | call (name : Text) {e : Expr} {tokens : List Token} {count : Nat}
      (argument : Prints .factor e tokens count) :
      Prints .factor (.call name e) (.name name :: tokens) (count + 1)
  | binary (operator : Operator) {e f : Expr} {tokens tokens' : List Token}
      {count count' : Nat} (left : Prints (operatorBinding operator) e tokens count)
      (right : Prints (rightBinding operator) f tokens' count') :
      Prints (operatorBinding operator) (.binary operator e f)
        (tokens ++ .mark operator.symbol :: tokens') (max count count')
  | ofBase {e : Expr} {tokens : List Token} {count : Nat}
      (inner : Prints .base e tokens count) : Prints .factor e tokens count
  | ofFactor {e : Expr} {tokens : List Token} {count : Nat}
      (inner : Prints .factor e tokens count) : Prints .product e tokens count
  | ofProduct {e : Expr} {tokens : List Token} {count : Nat}
      (inner : Prints .product e tokens count) : Prints .sum e tokens count

/-- What binds tightly may stand where less is asked for. -/
theorem Prints.loosen {least other : Binding} {e : Expr} {tokens : List Token} {count : Nat}
    (h : Prints least e tokens count) (hrank : other.rank ≤ least.rank) :
    Prints other e tokens count := by
  have hfactor : least = .base ∨ least = .factor → Prints .factor e tokens count := by
    rintro (rfl | rfl)
    · exact .ofBase h
    · exact h
  have hproduct : 1 ≤ least.rank → Prints .product e tokens count := by
    intro hle
    cases least with
    | sum => exact absurd hle (by decide)
    | product => exact h
    | factor => exact .ofFactor (hfactor (.inr rfl))
    | base => exact .ofFactor (hfactor (.inl rfl))
  cases other with
  | sum =>
    cases least with
    | sum => exact h
    | product => exact .ofProduct h
    | factor => exact .ofProduct (hproduct (by decide))
    | base => exact .ofProduct (hproduct (by decide))
  | product => exact hproduct hrank
  | factor =>
    cases least with
    | sum => exact absurd hrank (by decide)
    | product => exact absurd hrank (by decide)
    | factor => exact h
    | base => exact .ofBase h
  | base =>
    cases least with
    | base => exact h
    | sum => exact absurd hrank (by decide)
    | product => exact absurd hrank (by decide)
    | factor => exact absurd hrank (by decide)

/-- Every tree prints where nothing more than a sum is asked for. -/
theorem Prints.toSum {e : Expr} {tokens : List Token} {count : Nat}
    (h : Prints e.binding e tokens count) : Prints .sum e tokens count :=
  h.loosen (Nat.zero_le _)

/-- A part prints in the parentheses that it needs. -/
theorem Prints.inside {e : Expr} {tokens : List Token} {count : Nat} (least : Binding)
    (h : Prints e.binding e tokens count) :
    Prints least e (Expr.tokens.inside least e tokens) (openFactors.inside least e count) := by
  unfold Expr.tokens.inside openFactors.inside
  by_cases hneeds : e.needsParentheses least = true
  · rw [if_pos hneeds, if_pos hneeds]
    refine Prints.loosen (.parentheses h.toSum) ?_
    cases least <;> decide
  · rw [if_neg hneeds, if_neg hneeds]
    refine h.loosen ?_
    simpa [needsParentheses] using hneeds

/-- The printed form without needless parentheses is a form of the grammar. -/
theorem prints_tokens (e : Expr) : Prints e.binding e e.tokens e.openFactors := by
  induction e with
  | literal l => exact .literal l
  | plus e ih => exact .plus (ih.inside .factor)
  | minus e ih => exact .minus (ih.inside .factor)
  | binary operator left right ihLeft ihRight =>
    exact .binary operator (ihLeft.inside _) (ihRight.inside _)
  | power base exponent ihBase ihExponent =>
    exact .power (ihBase.inside .base) (ihExponent.inside .factor)
  | call name argument ih => exact .call name (ih.inside .factor)

/-! ## Parentheses apart -/

/-- Whether a token is a parenthesis. -/
def isParenthesis (token : Token) : Bool := token = .mark '(' || token = .mark ')'

/-- The tokens that are no parentheses. -/
def bare (tokens : List Token) : List Token := tokens.filter (!isParenthesis ·)

@[simp] theorem bare_append (tokens tokens' : List Token) :
    bare (tokens ++ tokens') = bare tokens ++ bare tokens' := List.filter_append ..

/-- Parentheses around tokens leave them bare. -/
@[simp] theorem bare_parenthesized (tokens : List Token) :
    bare (parenthesized tokens) = bare tokens := by
  unfold parenthesized
  rw [List.cons_append, ← List.singleton_append, bare_append, bare_append]
  exact List.append_nil _

/-- The parentheses that a part needs leave it bare. -/
@[simp] theorem bare_inside (least : Binding) (e : Expr) (printed : List Token) :
    bare (Expr.tokens.inside least e printed) = bare printed := by
  unfold Expr.tokens.inside
  split
  · exact bare_parenthesized printed
  · rfl

/-- The printed forms of a tree differ from each other in parentheses only. -/
theorem bare_of_prints {least : Binding} {e : Expr} {tokens : List Token} {count : Nat}
    (h : Prints least e tokens count) : bare tokens = bare e.tokens := by
  have hcons (token : Token) (tokens : List Token) :
      bare (token :: tokens) = bare [token] ++ bare tokens :=
    bare_append [token] tokens
  induction h with
  | literal l => rfl
  | parentheses inner ih => rw [bare_parenthesized, ih]
  | plus operand ih => rw [Expr.tokens, hcons, hcons _ (Expr.tokens.inside ..), bare_inside, ih]
  | minus operand ih => rw [Expr.tokens, hcons, hcons _ (Expr.tokens.inside ..), bare_inside, ih]
  | power base exponent ihBase ihExponent =>
    rw [Expr.tokens, bare_append, bare_append, hcons, hcons _ (Expr.tokens.inside ..),
      bare_inside, bare_inside, ihBase, ihExponent]
  | call name argument ih =>
    rw [Expr.tokens, hcons, hcons _ (Expr.tokens.inside ..), bare_inside, ih]
  | binary operator left right ihLeft ihRight =>
    rw [Expr.tokens, bare_append, bare_append, hcons, hcons _ (Expr.tokens.inside ..),
      bare_inside, bare_inside, ihLeft, ihRight]
  | ofBase inner ih => exact ih
  | ofFactor inner ih => exact ih
  | ofProduct inner ih => exact ih

/-! ## What a printed tree consists of -/

/-- The symbols of operators are proper tokens. -/
theorem isProper_symbol (operator : Operator) : (Token.mark operator.symbol).IsProper := by
  cases operator <;> decide

/-- A printed tree consists of proper tokens, if the names that it calls are proper. -/
theorem isProper_of_prints {least : Binding} {e : Expr} {tokens : List Token} {count : Nat}
    (h : Prints least e tokens count)
    (hnames : ∀ name ∈ e.names, (Token.name name).IsProper) :
    ∀ token ∈ tokens, token.IsProper := by
  have hmark (c : Char) (tokens : List Token) (hc : (Token.mark c).IsProper)
      (h : ∀ token ∈ tokens, token.IsProper) :
      ∀ token ∈ Token.mark c :: tokens, token.IsProper := by
    intro token htoken
    rcases List.mem_cons.1 htoken with rfl | htoken
    · exact hc
    · exact h token htoken
  have happend (tokens tokens' : List Token) (h : ∀ token ∈ tokens, token.IsProper)
      (h' : ∀ token ∈ tokens', token.IsProper) :
      ∀ token ∈ tokens ++ tokens', token.IsProper := by
    intro token htoken
    rcases List.mem_append.1 htoken with htoken | htoken
    · exact h token htoken
    · exact h' token htoken
  induction h with
  | literal l =>
    intro token htoken
    rw [List.mem_singleton.1 htoken]
    exact l.isProper
  | parentheses inner ih =>
    refine happend _ _ (hmark _ _ (by decide) (ih hnames)) ?_
    exact hmark _ _ (by decide) (by simp)
  | plus operand ih => exact hmark _ _ (by decide) (ih hnames)
  | minus operand ih => exact hmark _ _ (by decide) (ih hnames)
  | power base exponent ihBase ihExponent =>
    have hbase := ihBase fun name h => hnames name (List.mem_append_left _ h)
    have hexponent := ihExponent fun name h => hnames name (List.mem_append_right _ h)
    exact happend _ _ hbase (hmark _ _ (by decide) hexponent)
  | call name argument ih =>
    intro token htoken
    rcases List.mem_cons.1 htoken with rfl | htoken
    · exact hnames name List.mem_cons_self
    · exact ih (fun other h => hnames other (List.mem_cons_of_mem _ h)) token htoken
  | binary operator left right ihLeft ihRight =>
    have hleft := ihLeft fun name h => hnames name (List.mem_append_left _ h)
    have hright := ihRight fun name h => hnames name (List.mem_append_right _ h)
    exact happend _ _ hleft (hmark _ _ (isProper_symbol operator) hright)
  | ofBase inner ih => exact ih hnames
  | ofFactor inner ih => exact ih hnames
  | ofProduct inner ih => exact ih hnames

/-- Printing opens at least one factor. -/
theorem Prints.count_pos {least : Binding} {e : Expr} {tokens : List Token} {count : Nat}
    (h : Prints least e tokens count) : 0 < count := by
  induction h with
  | literal l => exact Nat.one_pos
  | parentheses _ ih => exact Nat.succ_pos _
  | plus _ ih => exact Nat.succ_pos _
  | minus _ ih => exact Nat.succ_pos _
  | power _ _ ih _ => exact Nat.lt_of_lt_of_le ih (Nat.le_max_left _ _)
  | call _ _ ih => exact Nat.succ_pos _
  | binary _ _ _ ih _ => exact Nat.lt_of_lt_of_le ih (Nat.le_max_left _ _)
  | ofBase _ ih => exact ih
  | ofFactor _ ih => exact ih
  | ofProduct _ ih => exact ih

/-- A base begins with a number or with a parenthesis. -/
theorem Prints.base_begins {least : Binding} {e : Expr} {tokens : List Token} {count : Nat}
    (h : Prints least e tokens count) (hbase : least = .base) :
    (∃ run, tokens.head? = some (.number run)) ∨ tokens.head? = some (.mark '(') := by
  cases h with
  | literal l => exact .inl ⟨l.run, rfl⟩
  | parentheses inner => exact .inr rfl
  | binary operator left right => cases operator <;> exact absurd hbase (by decide)
  | _ => exact absurd hbase (by decide)

end Expr

end PocketCalculator
