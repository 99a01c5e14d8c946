import PocketCalculator.Display.Screen
import PocketCalculator.Proofs.Grammar
import PocketCalculator.Proofs.ReadingSteps

/-!
# Reading what has been printed

Reading the printed form of a tree computes the meaning of the tree.  The proof
follows the grammar: at each binding, reading the tokens of a tree in front of any
rest comes to the point where the value of the tree is known and the rest is next.

Main definitions:

- {lit}`Reader.readAt` reads what stands where a binding is asked for.
- {lit}`Reader.resumeAt` goes on from a value at that place.
- {lit}`Reader.ReadsAs` says that tokens read as a tree, whatever follows them.

Main results:

- Theorem {lit}`Reader.readsAs_of_prints`: the tokens that print a tree read as the tree,
  by one step for each rule of the grammar.
- Theorem {lit}`evaluate_of_written`: the printed form of a tree, however it is spaced,
  evaluates to the meaning of the tree.
-/

namespace PocketCalculator

namespace Reader

open PocketCalculator.Expr (Prints Binding)

variable {α : Type} {meaning : Meaning α} {limit : Nat}

/-- Reads what stands where a binding is asked for, when a given number of factors
may still be opened.  A base is part of a factor that is already open. -/
def readAt (meaning : Meaning α) (limit room : Nat) : Binding → List Token → Reading α
  | .sum => (sum meaning (factor meaning limit room)).run
  | .product => (product meaning (factor meaning limit room)).run
  | .factor => (factor meaning limit room).run
  | .base => base meaning (factor meaning limit (room - 1))

/-- Goes on from a value where a binding is asked for: chains may continue. -/
def resumeAt (meaning : Meaning α) (limit room : Nat) :
    Binding → α → List Token → Reading α
  | .sum => continueWith (joinBy meaning Operator.additive?)
      (product meaning (factor meaning limit room))
  | .product => continueWith (joinBy meaning Operator.multiplicative?)
      (factor meaning limit room)
  | .factor => fun x rest => .ok (x, rest)
  | .base => fun x rest => .ok (x, rest)

/-- The characters that would be taken as part of what stands at a binding. -/
def extensions : Binding → List Char
  | .sum => ['^', '*', '/', '%']
  | .product => ['^']
  | .factor => ['^']
  | .base => []

/-- Where nothing can extend it, a sum or a product is complete. -/
theorem continueWith_of_avoids {operator? : Char → Option Operator} {operand : Reader α}
    {x : α} {rest : List Token}
    (h : ∀ c, operator? c ≠ none → rest.head? ≠ some (.mark c)) :
    continueWith (joinBy meaning operator?) operand x rest = .ok (x, rest) := by
  apply continueWith_of_stop
  intro token htoken
  rw [joinBy_eq_none_iff]
  rintro c rfl
  cases hc : operator? c with
  | none => rfl
  | some operator => exact absurd htoken (h c (by simp [hc]))

/-- A product is complete where nothing extends a sum. -/
theorem resumeAt_product {room : Nat} {x : α} {rest : List Token}
    (h : ∀ c ∈ extensions .sum, rest.head? ≠ some (.mark c)) :
    resumeAt meaning limit room .product x rest = .ok (x, rest) := by
  apply continueWith_of_avoids
  intro c hc
  apply h
  obtain ⟨operator, hoperator⟩ := Option.ne_none_iff_exists'.1 hc
  obtain ⟨rfl, hproduct⟩ := Operator.multiplicative?_eq_some_iff.1 hoperator
  cases operator with
  | add => exact absurd hproduct (by decide)
  | sub => exact absurd hproduct (by decide)
  | mul => decide
  | div => decide
  | rem => decide

/-! ## Operators between operands -/

/-- The symbol of an operator extends no operand on its left. -/
theorem symbol_notMem_extensions (operator : Operator) :
    operator.symbol ∉ extensions (Expr.operatorBinding operator) := by
  cases operator <;> decide

/-- What extends a right operand extends the whole. -/
theorem extensions_right (operator : Operator) :
    extensions (Expr.rightBinding operator) ⊆
      extensions (Expr.operatorBinding operator) := by
  cases operator <;> decide

/-- After the symbol of an operator comes its right operand. -/
theorem resumeAt_symbol (operator : Operator) {room : Nat} {x : α} {input : List Token} :
    resumeAt meaning limit room (Expr.operatorBinding operator) x
        (.mark operator.symbol :: input) =
      match readAt meaning limit room (Expr.rightBinding operator) input with
      | .error cause => .error cause
      | .ok (y, rest) => resumeAt meaning limit room (Expr.operatorBinding operator)
          (meaning.binary operator x y) rest := by
  rcases operator.levels with ⟨hleft, hright⟩ | ⟨hleft, hright⟩
  · rw [hleft, hright]
    exact continueWith_of_join (joinBy_mark (Operator.additive?_eq_some_iff.2 ⟨rfl, hleft⟩))
  · rw [hleft, hright]
    exact continueWith_of_join
      (joinBy_mark (Operator.multiplicative?_eq_some_iff.2 ⟨rfl, hleft⟩))

/-- A right operand is complete where nothing extends the whole. -/
theorem resumeAt_right {operator : Operator} {room : Nat} {y : α} {rest : List Token}
    (h : ∀ c ∈ extensions (Expr.operatorBinding operator), rest.head? ≠ some (.mark c)) :
    resumeAt meaning limit room (Expr.rightBinding operator) y rest = .ok (y, rest) := by
  rcases operator.levels with ⟨hleft, hright⟩ | ⟨hleft, hright⟩
  · rw [hleft] at h
    rw [hright]
    exact resumeAt_product h
  · rw [hright]
    rfl

/-! ## Reading along the grammar -/

/-- A factor that begins with a printed base reads the base first. -/
theorem run_factor_of_base {e : Expr} {tokens : List Token} {count : Nat}
    (h : Prints .base e tokens count) (room : Nat) (rest : List Token) :
    (factor meaning limit (room + 1)).run (tokens ++ rest) =
      match base meaning (factor meaning limit room) (tokens ++ rest) with
      | .error cause => .error cause
      | .ok (x, after) => raise meaning (factor meaning limit room) x after := by
  obtain ⟨token, more, rfl, hplus, hminus⟩ :
      ∃ token more, tokens = token :: more ∧ token ≠ .mark '+' ∧ token ≠ .mark '-' := by
    cases tokens with
    | nil => exact absurd (h.base_begins rfl) (by simp)
    | cons token more =>
      refine ⟨token, more, rfl, ?_⟩
      rcases h.base_begins rfl with ⟨run, hrun⟩ | hmark
      · rw [Option.some.inj hrun]
        exact ⟨by simp, by simp⟩
      · rw [Option.some.inj hmark]
        exact ⟨by decide, by decide⟩
  rw [run_factor_succ]
  exact opened_of_base (by simpa using hplus) (by simpa using hminus)

variable (meaning limit) in
/-- The tokens read as the tree: with room for its open factors, and in front of any
rest that does not extend it, reading comes to the meaning of the tree and goes on from
there. -/
def ReadsAs (least : Binding) (e : Expr) (tokens : List Token) (count : Nat) : Prop :=
  ∀ (room : Nat) (_ : count ≤ room) (rest : List Token)
    (_ : ∀ c ∈ extensions least, rest.head? ≠ some (.mark c)),
    readAt meaning limit room least (tokens ++ rest) =
      match e.denote meaning with
      | .error cause => .error cause
      | .ok x => resumeAt meaning limit room least x rest

/-! ### One step for each rule of the grammar -/

section Steps

variable {e f : Expr} {tokens tokens' : List Token} {count count' : Nat}

theorem readsAs_literal (l : Literal) :
    ReadsAs meaning limit .base (.literal l) [.number l.run] 1 := by
  intro room hroom rest hrest
  simp [readAt, resumeAt, base, Expr.denote]

/-- The closing parenthesis ends the sum inside. -/
theorem readsAs_parentheses (hinner : ReadsAs meaning limit .sum e tokens count) :
    ReadsAs meaning limit .base e (Expr.parenthesized tokens) (count + 1) := by
  intro room hroom rest hrest
  obtain ⟨room, rfl⟩ : ∃ n, room = n + 1 := ⟨room - 1, by omega⟩
  have hsum := hinner room (by omega) (.mark ')' :: rest) (by simp [extensions])
  have hinput : Expr.parenthesized tokens ++ rest =
      .mark '(' :: (tokens ++ .mark ')' :: rest) := by
    simp [Expr.parenthesized]
  simp only [readAt, Nat.add_sub_cancel] at hsum ⊢
  rw [hinput, base, hsum]
  cases e.denote meaning with
  | error cause => rfl
  | ok x =>
    have hstop : resumeAt meaning limit room .sum x (.mark ')' :: rest) =
        .ok (x, .mark ')' :: rest) := continueWith_of_stop (by simp [joinBy, Operator.additive?])
    simp only [hstop]
    rfl

/-- Either sign opens a factor and changes the value of the factor behind it. -/
theorem readsAs_signed {mark : Char} {sign : α → α}
    (hopened : ∀ (inner : Reader α) (input : List Token),
      opened meaning inner (.mark mark :: input) = signed sign inner input)
    (hdenote : f.denote meaning =
      match e.denote meaning with
      | .error cause => .error cause
      | .ok x => .ok (sign x))
    (hoperand : ReadsAs meaning limit .factor e tokens count) :
    ReadsAs meaning limit .factor f (.mark mark :: tokens) (count + 1) := by
  intro room hroom rest hrest
  obtain ⟨room, rfl⟩ : ∃ n, room = n + 1 := ⟨room - 1, by omega⟩
  have hfactor := hoperand room (by omega) rest hrest
  simp only [readAt] at hfactor ⊢
  rw [run_factor_succ, List.cons_append, hopened, signed, hfactor, hdenote]
  cases e.denote meaning with
  | error cause => rfl
  | ok x => rfl

/-- The caret ends the base, and the exponent is a factor inside the power. -/
theorem readsAs_power (hprints : Prints .base e tokens count)
    (hbase : ReadsAs meaning limit .base e tokens count)
    (hexponent : ReadsAs meaning limit .factor f tokens' count') :
    ReadsAs meaning limit .factor (.power e f) (tokens ++ .mark '^' :: tokens')
      (max count (count' + 1)) := by
  intro room hroom rest hrest
  obtain ⟨room, rfl⟩ : ∃ n, room = n + 1 := ⟨room - 1, by omega⟩
  have hfirst := hbase (room + 1) (by omega)
    (.mark '^' :: (tokens' ++ rest)) (by simp [extensions])
  have hfactor := hexponent room (by omega) rest hrest
  simp only [readAt, Nat.add_sub_cancel] at hfirst hfactor ⊢
  rw [List.append_assoc, List.cons_append, run_factor_of_base hprints, hfirst, Expr.denote]
  cases e.denote meaning with
  | error cause => rfl
  | ok x =>
    simp only [resumeAt, raise, hfactor]
    cases f.denote meaning with
    | error cause => rfl
    | ok y => rfl

/-- The argument of a function takes every caret, so none follows the call. -/
theorem readsAs_call (name : Text) (hargument : ReadsAs meaning limit .factor e tokens count) :
    ReadsAs meaning limit .factor (.call name e) (.name name :: tokens) (count + 1) := by
  intro room hroom rest hrest
  obtain ⟨room, rfl⟩ : ∃ n, room = n + 1 := ⟨room - 1, by omega⟩
  have hfactor := hargument room (by omega) rest hrest
  simp only [readAt] at hfactor ⊢
  rw [run_factor_succ, List.cons_append, opened_of_base (by simp) (by simp), base, hfactor,
    Expr.denote]
  cases e.denote meaning with
  | error cause => rfl
  | ok x =>
    simp only [resumeAt]
    cases meaning.call name x with
    | error cause => rfl
    | ok y => exact raise_of_stop (hrest '^' (by decide))

/-- The chain goes on from the left operand with the symbol and the right operand. -/
theorem readsAs_binary (operator : Operator)
    (hleft : ReadsAs meaning limit (Expr.operatorBinding operator) e tokens count)
    (hright : ReadsAs meaning limit (Expr.rightBinding operator) f tokens' count') :
    ReadsAs meaning limit (Expr.operatorBinding operator) (.binary operator e f)
      (tokens ++ .mark operator.symbol :: tokens') (max count count') := by
  intro room hroom rest hrest
  have hfirst := hleft room (by omega)
    (.mark operator.symbol :: (tokens' ++ rest)) (by
      intro c hc hhead
      obtain rfl : operator.symbol = c := by simpa using hhead
      exact symbol_notMem_extensions operator hc)
  have hsecond := hright room (by omega) rest
    fun c hc => hrest c (extensions_right operator hc)
  rw [List.append_assoc, List.cons_append, hfirst, Expr.denote]
  cases e.denote meaning with
  | error cause => rfl
  | ok x =>
    dsimp only
    rw [resumeAt_symbol, hsecond]
    cases f.denote meaning with
    | error cause => rfl
    | ok y =>
      dsimp only
      rw [resumeAt_right hrest]

/-- Without a caret the base is the factor. -/
theorem readsAs_ofBase (hprints : Prints .base e tokens count)
    (hbase : ReadsAs meaning limit .base e tokens count) :
    ReadsAs meaning limit .factor e tokens count := by
  intro room hroom rest hrest
  have hpos := hprints.count_pos
  obtain ⟨room, rfl⟩ : ∃ n, room = n + 1 := ⟨room - 1, by omega⟩
  have hfirst := hbase (room + 1) hroom rest (by simp [extensions])
  simp only [readAt, Nat.add_sub_cancel] at hfirst ⊢
  rw [run_factor_of_base hprints, hfirst]
  cases e.denote meaning with
  | error cause => rfl
  | ok x => exact raise_of_stop (hrest '^' (by decide))

/-- A factor is the first operand of a product. -/
theorem readsAs_ofFactor (hfactor : ReadsAs meaning limit .factor e tokens count) :
    ReadsAs meaning limit .product e tokens count := by
  intro room hroom rest hrest
  have hfirst := hfactor room hroom rest hrest
  simp only [readAt] at hfirst ⊢
  rw [product, run_chain, hfirst]
  cases e.denote meaning with
  | error cause => rfl
  | ok x => rfl

/-- A product is the first operand of a sum. -/
theorem readsAs_ofProduct (hproduct : ReadsAs meaning limit .product e tokens count) :
    ReadsAs meaning limit .sum e tokens count := by
  intro room hroom rest hrest
  have hfirst := hproduct room hroom rest (fun c hc => hrest c (by simp_all [extensions]))
  simp only [readAt] at hfirst ⊢
  rw [sum_eq_chain, run_chain, hfirst]
  cases e.denote meaning with
  | error cause => rfl
  | ok x =>
    dsimp only
    rw [resumeAt_product hrest]
    rfl

end Steps

variable (meaning limit) in
/-- The tokens that print a tree read as the tree. -/
theorem readsAs_of_prints {least : Binding} {e : Expr} {tokens : List Token} {count : Nat}
    (h : Prints least e tokens count) : ReadsAs meaning limit least e tokens count := by
  induction h with
  | literal l => exact readsAs_literal l
  | parentheses inner ih => exact readsAs_parentheses ih
  | plus operand ih => exact readsAs_signed (fun _ _ => rfl) rfl ih
  | minus operand ih => exact readsAs_signed (fun _ _ => rfl) rfl ih
  | power base exponent ihBase ihExponent => exact readsAs_power base ihBase ihExponent
  | call name argument ih => exact readsAs_call name ih
  | binary operator left right ihLeft ihRight => exact readsAs_binary operator ihLeft ihRight
  | ofBase inner ih => exact readsAs_ofBase inner ih
  | ofFactor inner ih => exact readsAs_ofFactor ih
  | ofProduct inner ih => exact readsAs_ofProduct ih

end Reader

/-! ## Whole expressions -/

/-- Reading the tokens of a tree as a whole gives the meaning of the tree. -/
theorem readTokens_of_prints {α : Type} {meaning : Meaning α} {limit : Nat} {e : Expr}
    {tokens : List Token} {count : Nat} (h : Expr.Prints .sum e tokens count)
    (hcount : count ≤ limit) : readTokens meaning limit tokens = e.denote meaning := by
  have hread := Reader.readsAs_of_prints meaning limit h limit hcount [] (by simp)
  rw [List.append_nil, Reader.readAt] at hread
  rw [readTokens, hread]
  cases e.denote meaning with
  | error cause => rfl
  | ok x =>
    have hstop : Reader.resumeAt meaning limit limit .sum x [] = .ok (x, []) :=
      Reader.continueWith_of_stop (by simp)
    dsimp only
    rw [hstop]
    rfl

/-- The operators that may follow a tree. -/
def followers : List Char := ['^', '*', '/', '%', '+', '-']

/-- Nothing but an operator can follow a tree: once the tree has a meaning, any other
token is unexpected. -/
theorem readTokens_of_prints_append {α : Type} {meaning : Meaning α} {limit : Nat} {e : Expr}
    {tokens rest : List Token} {token : Token} {count : Nat} {x : α}
    (h : Expr.Prints .sum e tokens count) (hcount : count ≤ limit)
    (hx : e.denote meaning = .ok x) (htoken : ∀ c ∈ followers, token ≠ .mark c) :
    readTokens meaning limit (tokens ++ token :: rest) = .error (.unexpected token.first?) := by
  have hhead (c : Char) (hc : c ∈ followers) : (token :: rest).head? ≠ some (.mark c) := by
    intro hmark
    exact htoken c hc (Option.some.inj hmark)
  have hread := Reader.readsAs_of_prints meaning limit h limit hcount (token :: rest)
    fun c hc => hhead c (List.mem_append_left ['+', '-'] hc)
  have hstop : Reader.resumeAt meaning limit limit .sum x (token :: rest) =
      .ok (x, token :: rest) := by
    apply Reader.continueWith_of_avoids
    intro c hc
    apply hhead
    rcases Option.ne_none_iff_exists'.1 hc with ⟨operator, hoperator⟩
    obtain ⟨rfl, hsum⟩ := Operator.additive?_eq_some_iff.1 hoperator
    cases operator <;> decide
  rw [hx, Reader.readAt] at hread
  rw [readTokens, hread]
  dsimp only
  rw [hstop]
  rfl

/-- Evaluating undoes printing.  A tree whose names are proper and whose printed form
never has more factors open than the limit evaluates, however its tokens are spaced,
to its meaning from left to right: its value, or the cause of its first failure. -/
theorem evaluate_of_written {e : Expr} {text : Text}
    (hnames : ∀ name ∈ e.names, (Token.name name).IsProper)
    (hopen : e.openFactors ≤ nestingLimit) (htext : Token.Written e.tokens text) :
    evaluate text = e.denote Meaning.number := by
  have hprints := e.prints_tokens
  rw [evaluate, readAs,
    Token.lex_of_written (Expr.isProper_of_prints hprints hnames) htext]
  exact readTokens_of_prints hprints.toSum hopen

/-- A sum has the value of its tree.  A sign before a power negates the power, spaces may
stand anywhere, and the name {lit}`log` before {lit}`10` keeps apart from it by one: no
function has this name. -/
theorem evaluate_of_written_sum_and_log :
    let sum : Expr := .binary .add (.literal ⟨['1', '.', '5'], ⟨15, -1⟩, rfl⟩)
      (.binary .mul (.literal ⟨['2'], ⟨2, 0⟩, rfl⟩) (.minus (.literal ⟨['3'], ⟨3, 0⟩, rfl⟩)))
    let log : Expr := .binary .add
      (.minus (.power (.literal ⟨['2'], ⟨2, 0⟩, rfl⟩) (.literal ⟨['3'], ⟨3, 0⟩, rfl⟩)))
      (.call "log".toList (.literal ⟨['1', '0'], ⟨10, 0⟩, rfl⟩))
    ((∀ name ∈ sum.names, (Token.name name).IsProper) ∧ sum.openFactors ≤ nestingLimit ∧
        Token.Written sum.tokens "1.5+ 2*-3".toList ∧
        ∃ x, evaluate "1.5+ 2*-3".toList = .ok x ∧ Display.ofFloat x = "-4.5".toList) ∧
      (∀ name ∈ log.names, (Token.name name).IsProper) ∧ log.openFactors ≤ nestingLimit ∧
        Token.Written log.tokens "- 2^3+log 10".toList ∧
        evaluate "- 2^3+log 10".toList = .error (.unknownFunction "log".toList) := by
  intro sum log
  have hunnamed : ∀ name ∈ sum.names, (Token.name name).IsProper := by
    intro name hname
    exact absurd hname List.not_mem_nil
  have hnames : ∀ name ∈ log.names, (Token.name name).IsProper := by
    intro name hname
    rw [List.mem_singleton.1 hname]
    exact .inr ⟨by decide, List.all_eq_true.1 (by decide)⟩
  have hsum : Token.Written sum.tokens "1.5+ 2*-3".toList :=
    .touching 0 rfl (.touching 0 rfl (.touching 1 rfl (.touching 0 rfl (.touching 0 rfl
      (.cons 0 _ (by simp) (.nil 0))))))
  have hlog : Token.Written log.tokens "- 2^3+log 10".toList := by
    have hten : Token.Written [.number ['1', '0']] " 10".toList :=
      .cons 1 _ (by simp) (.nil 0)
    have hcall : Token.Written [.name "log".toList, .number ['1', '0']] "log 10".toList :=
      .cons 0 _ (fun _ _ _ => rfl) hten
    exact .touching 0 rfl (.touching 1 rfl (.touching 0 rfl (.touching 0 rfl
      (.touching 0 rfl hcall))))
  refine ⟨⟨hunnamed, by decide, hsum, ?_⟩, hnames, by decide, hlog, ?_⟩
  · rw [evaluate_of_written hunnamed (by decide) hsum]
    exact ⟨_, rfl, by decide +kernel⟩
  · rw [evaluate_of_written hnames (by decide) hlog]
    rfl

end PocketCalculator
