import PocketCalculator.Entry.State
import PocketCalculator.Proofs.DecimalRounding
import PocketCalculator.Proofs.Numerals

/-!
# Searching for the last number

The last number of an expression can be told by a pattern: a group of digits and dots, a
group of other characters, and the end of the text.  A search tries the starts from left to
right.  At each of them it tries what the groups can take, as many characters as can be
first, and it stops at the first match.  What it finds is the last run of digits and dots
together with what stands after it, wherever they are and whatever stands before them.

Main definitions:

- {lit}`LastRun` says that a text has a last run.
- {lit}`search` is the search for a pattern of greedy groups.
- {lit}`percentBySearch?` is the percent key in terms of this search, with the start of the
  match counted in bytes.

Main results:

- Theorem {lit}`search_lastNumber_eq_some_iff`: what the search finds.
- Theorem {lit}`percentBySearch?_eq`: the percent key is the search.
- Theorem {lit}`Decimal.ofPlain?_eq_some_iff`: which runs are numerals, and their value.
- Theorem {lit}`percent_cases`: what the percent key leaves.
- Theorem {lit}`press_percent`: the percent key rewrites exactly the last run.
-/

namespace PocketCalculator

/-! ## The last run -/

/-- A text ends in a run of digits and dots, which goes on to neither side, and other
characters after it. -/
structure LastRun (text before run tail : Text) : Prop where
  parts : text = before ++ run ++ tail
  nonempty : run ≠ []
  inside : ∀ c ∈ run, isRunCharacter c = true
  outside : ∀ c ∈ tail, isRunCharacter c = false
  maximal : ∀ c, before.getLast? = some c → isRunCharacter c = false

namespace LastRun

variable {text before run tail : Text}

/-- The last run is found by splitting. -/
theorem splitAtLastRun_eq (h : LastRun text before run tail) :
    splitAtLastRun text = (before, run, tail) := by
  rw [h.parts]
  exact PocketCalculator.splitAtLastRun_eq h.nonempty h.inside h.outside h.maximal

/-- There is no other last run. -/
theorem unique {before' run' tail' : Text} (h : LastRun text before run tail)
    (h' : LastRun text before' run' tail') : before' = before ∧ run' = run ∧ tail' = tail := by
  have hsame := h'.splitAtLastRun_eq.symm.trans h.splitAtLastRun_eq
  simpa using hsame

/-- Splitting finds a last run, if it finds any. -/
theorem of_splitAtLastRun (h : PocketCalculator.splitAtLastRun text = (before, run, tail))
    (hne : run ≠ []) : LastRun text before run tail := by
  have hparts := splitAtLastRun_append text
  have hmaximal : ∀ c, (PocketCalculator.splitAtLastRun text).1.getLast? = some c →
      isRunCharacter c = false := fun _ => boundary_splitAtLastRun
  rw [h] at hparts hmaximal
  obtain ⟨-, hrun, htail⟩ : _ ∧ _ ∧ _ := by
    simpa only [PocketCalculator.splitAtLastRun, Prod.mk.injEq] using h
  refine ⟨hparts.symm, hne, fun c hc => ?_, fun c hc => ?_, hmaximal⟩
  · rw [← hrun, List.mem_reverse] at hc
    exact List.all_eq_true.1 List.all_takeWhile c hc
  · rw [← htail, List.mem_reverse] at hc
    simpa using List.all_eq_true.1 List.all_takeWhile c hc

/-- A text with a digit or a dot has a last run. -/
theorem exists_of_mem {c : Char} (hmem : c ∈ text) (hc : isRunCharacter c = true) :
    ∃ before run tail, LastRun text before run tail := by
  refine ⟨_, _, _, of_splitAtLastRun rfl ?_⟩
  have hrest : text.reverse.dropWhile (!isRunCharacter ·) ≠ [] := by
    intro hnil
    have hsplit := List.takeWhile_append_dropWhile (p := (!isRunCharacter ·)) (l := text.reverse)
    rw [hnil, List.append_nil] at hsplit
    have hnone := List.all_eq_true.1 List.all_takeWhile c
      (by rw [hsplit]; exact List.mem_reverse.2 hmem)
    rw [hc] at hnone
    contradiction
  obtain ⟨d, more, hcons⟩ := List.exists_cons_of_ne_nil hrest
  have hd : isRunCharacter d = true := by
    have hfirst := List.head?_dropWhile_not (!isRunCharacter ·) text.reverse
    rw [hcons] at hfirst
    simpa using hfirst
  simp [hcons, hd]

end LastRun

/-! ## Patterns -/

/-- A captured group of a pattern takes characters of one kind, as many as it can, and at
least some number of them. -/
structure Group where
  kind : Char → Bool
  least : Nat

/-- What characters of one kind can be taken from the front of a text, and what is left
then: the longest first. -/
def divisions (kind : Char → Bool) : Text → List (Text × Text)
  | [] => [([], [])]
  | c :: text =>
    if kind c then
      (divisions kind text).map (fun division => (c :: division.1, division.2)) ++ [([], c :: text)]
    else [([], c :: text)]

/-- What groups capture one after the other up to the end of a text, in the order of
preference. -/
def captures : List Group → Text → List (List Text)
  | [], text => if text.isEmpty then [[]] else []
  | group :: groups, text =>
    ((divisions group.kind text).filter (group.least ≤ ·.1.length)).flatMap fun division =>
      (captures groups division.2).map (division.1 :: ·)

/-- A match: how many bytes are in front of it, and what its groups capture. -/
structure Match where
  start : Nat
  captured : List Text
deriving DecidableEq

/-- The leftmost match of groups up to the end of a text, and there the preferred one. -/
def search (groups : List Group) : Text → Option Match
  | [] => (captures groups []).head?.map (⟨0, ·⟩)
  | c :: text =>
    match (captures groups (c :: text)).head? with
    | some captured => some ⟨0, captured⟩
    | none => (search groups text).map fun found => { found with start := c.utf8Size + found.start }

/-- At least one digit or dot, and then other characters. -/
def lastNumber : List Group := [⟨isRunCharacter, 1⟩, ⟨(!isRunCharacter ·), 0⟩]

/-- The divisions of a text are its parts whose first one is of the kind. -/
theorem mem_divisions {kind : Char → Bool} {text taken left : Text} :
    (taken, left) ∈ divisions kind text ↔
      text = taken ++ left ∧ ∀ c ∈ taken, kind c = true := by
  induction text generalizing taken with
  | nil =>
    rw [divisions, List.mem_singleton, Prod.mk.injEq, List.nil_eq_append_iff]
    constructor
    · rintro ⟨rfl, rfl⟩
      exact ⟨⟨rfl, rfl⟩, by simp⟩
    · exact And.left
  | cons c text ih =>
    rw [divisions]
    cases taken with
    | nil =>
      have hstop : ([], left) = (([] : Text), c :: text) ↔ c :: text = left := by
        simp [@eq_comm _ left]
      split <;> simp [hstop]
    | cons d taken =>
      rw [List.cons_append, List.cons.injEq, List.forall_mem_cons]
      split
      · next hc =>
        have hmore : (d :: taken, left) ∈
            (divisions kind text).map (fun division => (c :: division.1, division.2)) ↔
              c = d ∧ (taken, left) ∈ divisions kind text := by
          rw [List.mem_map]
          constructor
          · rintro ⟨⟨taken', left'⟩, hmem, hsame⟩
            obtain ⟨⟨rfl, rfl⟩, rfl⟩ : (c = d ∧ taken' = taken) ∧ left' = left := by
              simpa using hsame
            exact ⟨rfl, hmem⟩
          · rintro ⟨rfl, hmem⟩
            exact ⟨_, hmem, rfl⟩
        rw [List.mem_append, hmore, ih]
        constructor
        · rintro (⟨rfl, htext, htaken⟩ | hstop)
          · exact ⟨⟨rfl, htext⟩, hc, htaken⟩
          · simp at hstop
        · rintro ⟨⟨rfl, htext⟩, -, htaken⟩
          exact .inl ⟨rfl, htext, htaken⟩
      · next hc =>
        constructor
        · intro hstop
          simp at hstop
        · rintro ⟨⟨rfl, -⟩, hd, -⟩
          contradiction

/-- What groups capture: the first of them takes a first part of its kind, and the others
capture what is left. -/
theorem mem_captures_cons {group : Group} {groups : List Group} {text : Text}
    {found : List Text} :
    found ∈ captures (group :: groups) text ↔
      ∃ taken left more, text = taken ++ left ∧ (∀ c ∈ taken, group.kind c = true) ∧
        group.least ≤ taken.length ∧ more ∈ captures groups left ∧ found = taken :: more := by
  simp only [captures, List.mem_flatMap, List.mem_filter, List.mem_map, Prod.exists,
    decide_eq_true_eq, mem_divisions]
  constructor
  · rintro ⟨taken, left, ⟨⟨htext, htaken⟩, hleast⟩, more, hmore, rfl⟩
    exact ⟨taken, left, more, htext, htaken, hleast, hmore, rfl⟩
  · rintro ⟨taken, left, more, htext, htaken, hleast, hmore, rfl⟩
    exact ⟨taken, left, ⟨⟨htext, htaken⟩, hleast⟩, more, hmore, rfl⟩

/-- The end of the text captures nothing. -/
theorem mem_captures_nil {text : Text} {found : List Text} :
    found ∈ captures [] text ↔ text = [] ∧ found = [] := by
  cases text <;> simp [captures]

/-- The pattern of the last number matches exactly where a last run begins a text. -/
theorem mem_captures_lastNumber {text : Text} {found : List Text} :
    found ∈ captures lastNumber text ↔
      ∃ run tail, LastRun text [] run tail ∧ found = [run, tail] := by
  simp only [lastNumber, mem_captures_cons, mem_captures_nil]
  constructor
  · rintro ⟨run, _, _, rfl, hrun, hleast, ⟨tail, _, _, rfl, htail, -, ⟨rfl, rfl⟩, rfl⟩, rfl⟩
    refine ⟨run, tail, ⟨by simp, ?_, hrun, ?_, by simp⟩, rfl⟩
    · exact List.ne_nil_of_length_pos hleast
    · simpa using htail
  · rintro ⟨run, tail, ⟨htext, hne, hrun, htail, -⟩, rfl⟩
    refine ⟨run, tail, [tail], htext, hrun, List.length_pos_iff.2 hne, ?_, rfl⟩
    exact ⟨tail, [], [], by simp, by simpa using htail, Nat.zero_le _, ⟨rfl, rfl⟩, rfl⟩

/-! ## Searching -/

/-- How many bytes the characters of a text take. -/
def byteLength (text : Text) : Nat := (text.map Char.utf8Size).sum

/-- Without a digit or a dot nothing matches. -/
theorem captures_of_none {text : Text} (h : ∀ c ∈ text, isRunCharacter c = false) :
    captures lastNumber text = [] := by
  rw [List.eq_nil_iff_forall_not_mem]
  intro found hfound
  obtain ⟨run, tail, hlast, -⟩ := mem_captures_lastNumber.1 hfound
  obtain ⟨c, more, rfl⟩ := List.exists_cons_of_ne_nil hlast.nonempty
  have hc := h c (by simp [hlast.parts])
  rw [hlast.inside c List.mem_cons_self] at hc
  contradiction

/-- Without a digit or a dot the search finds nothing. -/
theorem search_of_none {text : Text} (h : ∀ c ∈ text, isRunCharacter c = false) :
    search lastNumber text = none := by
  induction text with
  | nil => rw [search, captures_of_none h, List.head?_nil, Option.map_none]
  | cons c text ih =>
    rw [search, captures_of_none h, List.head?_nil]
    dsimp only
    rw [ih (List.forall_mem_cons.1 h).2, Option.map_none]

namespace LastRun

variable {text before run tail : Text}

/-- Where a last run begins a text, there is one way to match. -/
theorem head?_captures (h : LastRun text [] run tail) :
    (captures lastNumber text).head? = some [run, tail] := by
  have hmem : [run, tail] ∈ captures lastNumber text :=
    mem_captures_lastNumber.2 ⟨run, tail, h, rfl⟩
  obtain ⟨found, others, hfound⟩ := List.exists_cons_of_ne_nil (List.ne_nil_of_mem hmem)
  obtain ⟨run', tail', h', rfl⟩ := mem_captures_lastNumber.1 (hfound ▸ List.mem_cons_self)
  obtain ⟨-, rfl, rfl⟩ := h.unique h'
  rw [hfound, List.head?_cons]

/-- Where anything stands before the last run, nothing matches. -/
theorem captures_eq_nil (h : LastRun text before run tail) (hbefore : before ≠ []) :
    captures lastNumber text = [] := by
  rw [List.eq_nil_iff_forall_not_mem]
  intro found hfound
  obtain ⟨run', tail', h', -⟩ := mem_captures_lastNumber.1 hfound
  exact hbefore (h'.unique h).1

/-- A character in front of the last run may be left out. -/
theorem of_cons {c : Char} (h : LastRun (c :: text) (c :: before) run tail) :
    LastRun text before run tail := by
  refine ⟨(List.cons.inj h.parts).2, h.nonempty, h.inside, h.outside, fun d hd => ?_⟩
  apply h.maximal
  rw [List.getLast?_cons, hd]
  rfl

/-- The search finds the last run, with the bytes of all that stands before it. -/
theorem search_eq (h : LastRun text before run tail) :
    search lastNumber text = some ⟨byteLength before, [run, tail]⟩ := by
  induction before generalizing text with
  | nil =>
    cases text with
    | nil => exact absurd h.parts (by simp [h.nonempty])
    | cons c text =>
      rw [search, h.head?_captures]
      rfl
  | cons c before ih =>
    obtain rfl : text = c :: (before ++ run ++ tail) := h.parts
    rw [search, h.captures_eq_nil (List.cons_ne_nil c before), List.head?_nil]
    dsimp only
    rw [ih h.of_cons]
    rfl

end LastRun

/-- The search finds the last run and nothing else. -/
theorem search_lastNumber_eq_some_iff {text : Text} {found : Match} :
    search lastNumber text = some found ↔
      ∃ before run tail, LastRun text before run tail ∧
        found = ⟨byteLength before, [run, tail]⟩ := by
  constructor
  · intro h
    by_cases hnone : ∀ c ∈ text, isRunCharacter c = false
    · rw [search_of_none hnone] at h
      exact absurd h (by simp)
    · obtain ⟨c, hmem, hc⟩ : ∃ c ∈ text, isRunCharacter c = true := by simpa using hnone
      obtain ⟨before, run, tail, hlast⟩ := LastRun.exists_of_mem hmem hc
      rw [hlast.search_eq] at h
      exact ⟨before, run, tail, hlast, (Option.some.inj h).symm⟩
  · rintro ⟨before, run, tail, hlast, rfl⟩
    exact hlast.search_eq

/-! ## The percent key as a search -/

/-- Cuts a text behind a number of bytes, which must not end inside of a character. -/
def truncate? : Nat → Text → Option Text
  | _, [] => some []
  | size, c :: text =>
    if size = 0 then some []
    else if c.utf8Size ≤ size then (truncate? (size - c.utf8Size) text).map (c :: ·)
    else none

/-- The bytes of a first part cut it off whole. -/
theorem truncate?_byteLength (before rest : Text) :
    truncate? (byteLength before) (before ++ rest) = some before := by
  induction before with
  | nil => cases rest <;> rfl
  | cons c before ih =>
    have hpos : c.utf8Size + byteLength before ≠ 0 := by
      have hc := c.utf8Size_pos
      omega
    have hlength : byteLength (c :: before) = c.utf8Size + byteLength before := by
      simp [byteLength]
    rw [hlength, List.cons_append, truncate?, if_neg hpos, if_pos (Nat.le_add_right _ _),
      Nat.add_sub_cancel_left, ih, Option.map_some]

/-- The percent key: the match of the last number is cut off, and a hundredth of the first
thing that it captures is written in its place.  Without a match, or where what is captured
is no number, a percent sign is added.  Nothing is said where the text cannot be cut. -/
def percentBySearch? (text : Text) : Option Text :=
  let replacement := (search lastNumber text).bind fun found =>
    (found.captured.head?.bind readNumber?).map fun x => (found.start, Display.ofFloat (x / 100))
  match replacement with
  | some (start, shown) => (truncate? start text).map (· ++ shown)
  | none => some (text ++ ['%'])

/-- Runs are read as numbers exactly if they are numerals. -/
theorem readNumber?_run {run : Text} (h : ∀ c ∈ run, isRunCharacter c = true) :
    readNumber? run = (Decimal.ofPlain? run).map Decimal.toFloat := by
  have hfirst {c : Char} (hc : run.head? = some c) : isRunCharacter c = true :=
    h c (List.mem_of_mem_head? hc)
  have hsign {c : Char} (hsign : c = '-' ∨ c = '+') : run.head? ≠ some c := by
    intro hc
    obtain ⟨-, -, hminus, hplus⟩ := class_of_isRunCharacter (hfirst hc)
    exact hsign.elim hminus hplus
  rw [readNumber?_of_head? (hsign (.inl rfl)) (hsign (.inr rfl)),
    readMagnitude?_of_head? fun c hc => (class_of_isRunCharacter (hfirst hc)).1,
    Decimal.ofScientific?_of_unmarked fun c hc => (class_of_isRunCharacter (h c hc)).2.1]

/-- Without a digit or a dot the percent sign is added. -/
theorem percent_of_none {text : Text} (h : ∀ c ∈ text, isRunCharacter c = false) :
    percent text = text ++ ['%'] := by
  have hinside : ∀ c ∈ text.reverse, (!isRunCharacter c) = true := by simpa using h
  have hrest : (text.reverse ++ []).dropWhile (!isRunCharacter ·) = [] :=
    Text.dropWhile_append_of_boundary hinside (by simp)
  rw [List.append_nil] at hrest
  have hrun : (splitAtLastRun text).2.1 = [] := by simp [splitAtLastRun, hrest]
  have hreads : Decimal.ofPlain? (splitAtLastRun text).2.1 = none := by
    rw [hrun]
    rfl
  unfold percent
  dsimp only
  rw [hreads]

/-- The percent key rewrites the last run if it is a numeral. -/
theorem LastRun.percent_eq {text before run tail : Text} (h : LastRun text before run tail) :
    percent text = ((Decimal.ofPlain? run).map fun decimal =>
      before ++ Display.ofFloat (decimal.toFloat / 100)).getD (text ++ ['%']) := by
  simp only [percent, h.splitAtLastRun_eq]
  cases Decimal.ofPlain? run <;> rfl

/-- The percent key is the search, and the text can be cut wherever it has to be. -/
theorem percentBySearch?_eq (text : Text) : percentBySearch? text = some (percent text) := by
  by_cases hnone : ∀ c ∈ text, isRunCharacter c = false
  · rw [percentBySearch?, search_of_none hnone, percent_of_none hnone]
    rfl
  · obtain ⟨c, hmem, hc⟩ : ∃ c ∈ text, isRunCharacter c = true := by simpa using hnone
    obtain ⟨before, run, tail, hlast⟩ := LastRun.exists_of_mem hmem hc
    rw [hlast.percent_eq]
    unfold percentBySearch?
    dsimp only
    rw [hlast.search_eq, Option.bind_some, List.head?_cons, Option.bind_some,
      readNumber?_run hlast.inside]
    cases Decimal.ofPlain? run with
    | none => rfl
    | some decimal =>
      have hcut := truncate?_byteLength before (run ++ tail)
      rw [← List.append_assoc, ← hlast.parts] at hcut
      simp [hcut]

/-! ## Numerals among the runs -/

/-- A run is a numeral if it has at least one digit and at most one dot. -/
structure IsNumeral (run : Text) : Prop where
  digit : ∃ c ∈ run, isDigit c = true
  dots : run.count '.' ≤ 1

namespace Decimal

/-- The number that a run stands for: its digits, with as many decimals as stand behind
the dot. -/
def ofRun (run : Text) : Decimal :=
  ⟨Nat.ofDigitChars 10 (run.filter isDigit) 0, -((run.dropWhile (· != '.')).drop 1).length⟩

/-- No digit is a dot. -/
theorem ne_dot_of_isDigit {c : Char} (h : isDigit c = true) : c ≠ '.' := by
  rintro rfl
  exact absurd h (by decide)

/-- Digits alone stand for their value. -/
theorem ofRun_digits {run : Text} (h : ∀ c ∈ run, isDigit c = true) :
    ofRun run = ⟨Nat.ofDigitChars 10 run 0, 0⟩ := by
  have hdots : ∀ c ∈ run, (c != '.') = true := fun c hc => by
    simpa using ne_dot_of_isDigit (h c hc)
  have hrest : (run ++ []).dropWhile (· != '.') = [] :=
    Text.dropWhile_append_of_boundary hdots (by simp)
  rw [List.append_nil] at hrest
  rw [ofRun, hrest, List.filter_eq_self.2 h]
  rfl

/-- Digits around a dot stand for their value, with the decimals behind the dot. -/
theorem ofRun_append_dot {whole fraction : Text} (hwhole : ∀ c ∈ whole, isDigit c = true)
    (hfraction : ∀ c ∈ fraction, isDigit c = true) :
    ofRun (whole ++ '.' :: fraction) =
      ⟨Nat.ofDigitChars 10 (whole ++ fraction) 0, -(fraction.length : Int)⟩ := by
  have hdots : ∀ c ∈ whole, (c != '.') = true := fun c hc => by
    simpa using ne_dot_of_isDigit (hwhole c hc)
  have hrest : (whole ++ '.' :: fraction).dropWhile (· != '.') = '.' :: fraction := by
    refine Text.dropWhile_append_of_boundary hdots ?_
    rintro c ⟨⟩
    rfl
  have hdigits : (whole ++ '.' :: fraction).filter isDigit = whole ++ fraction := by
    rw [List.filter_append, List.filter_eq_self.2 hwhole, List.filter_cons_of_neg (by decide),
      List.filter_eq_self.2 hfraction]
  rw [ofRun, hrest, hdigits, List.drop_one, List.tail_cons]

/-- A run with at most one dot is made of digits, or of digits around one dot. -/
theorem shape_of_count {run : Text} (hrun : ∀ c ∈ run, isRunCharacter c = true)
    (hdots : run.count '.' ≤ 1) :
    (∀ c ∈ run, isDigit c = true) ∨
      ∃ whole fraction, run = whole ++ '.' :: fraction ∧
        (∀ c ∈ whole, isDigit c = true) ∧ ∀ c ∈ fraction, isDigit c = true := by
  have hdigit {c : Char} (hc : c ∈ run) (hne : c ≠ '.') : isDigit c = true := by
    simpa [isRunCharacter, hne] using hrun c hc
  by_cases hdot : '.' ∈ run
  · obtain ⟨whole, fraction, rfl, hwhole⟩ := List.eq_append_cons_of_mem hdot
    have hfraction : '.' ∉ fraction := by
      rw [List.count_append, List.count_cons_self] at hdots
      exact List.count_eq_zero.1 (by omega)
    refine .inr ⟨whole, fraction, rfl, fun c hc => ?_, fun c hc => ?_⟩
    · exact hdigit (by simp [hc]) (ne_of_mem_of_not_mem hc hwhole)
    · exact hdigit (by simp [hc]) (ne_of_mem_of_not_mem hc hfraction)
  · exact .inl fun c hc => hdigit hc (ne_of_mem_of_not_mem hc hdot)

/-- The numerals among the runs are those with at least one digit and at most one dot. -/
theorem ofPlain?_eq_some_iff {run : Text} (hrun : ∀ c ∈ run, isRunCharacter c = true)
    {decimal : Decimal} :
    ofPlain? run = some decimal ↔ IsNumeral run ∧ decimal = ofRun run := by
  have hcount {digits : Text} (h : ∀ c ∈ digits, isDigit c = true) : digits.count '.' = 0 :=
    List.count_eq_zero.2 fun hmem => ne_dot_of_isDigit (h '.' hmem) rfl
  constructor
  · intro h
    rcases shape_of_ofPlain? h with ⟨hne, hdigits, rfl⟩ | hshape
    · obtain ⟨c, more, rfl⟩ := List.exists_cons_of_ne_nil hne
      refine ⟨⟨⟨c, List.mem_cons_self, hdigits c List.mem_cons_self⟩, ?_⟩,
        (ofRun_digits hdigits).symm⟩
      rw [hcount hdigits]
      exact Nat.zero_le 1
    · obtain ⟨whole, fraction, rfl, hwhole, hfraction, hne, rfl⟩ := hshape
      refine ⟨⟨?_, ?_⟩, (ofRun_append_dot hwhole hfraction).symm⟩
      · obtain ⟨c, more, hcons⟩ := List.exists_cons_of_ne_nil hne
        have hc : c ∈ whole ++ fraction := hcons ▸ List.mem_cons_self
        rcases List.mem_append.1 hc with hc | hc
        · exact ⟨c, by simp [hc], hwhole c hc⟩
        · exact ⟨c, by simp [hc], hfraction c hc⟩
      · rw [List.count_append, List.count_cons_self, hcount hwhole, hcount hfraction]
  · rintro ⟨⟨⟨c, hmem, hc⟩, hdots⟩, rfl⟩
    rcases shape_of_count hrun hdots with hdigits | ⟨whole, fraction, rfl, hwhole, hfraction⟩
    · rw [ofRun_digits hdigits, ofPlain?_digits hdigits (List.ne_nil_of_mem hmem)]
    · have hne : whole ++ fraction ≠ [] := by
        have hmem' : c ∈ whole ++ fraction := by
          simpa [ne_dot_of_isDigit hc] using hmem
        exact List.ne_nil_of_mem hmem'
      rw [ofRun_append_dot hwhole hfraction, ofPlain?_append_dot hwhole hfraction hne]

end Decimal

/-! ## The percent key -/

namespace LastRun

variable {text before run tail : Text}

/-- A hundredth of the last number takes the place of the number and of what stands after
it. -/
theorem percent_of_isNumeral (h : LastRun text before run tail) (hnumeral : IsNumeral run) :
    percent text = before ++ Display.ofFloat ((Decimal.ofRun run).toFloat / 100) := by
  rw [h.percent_eq, (Decimal.ofPlain?_eq_some_iff h.inside).2 ⟨hnumeral, rfl⟩,
    Option.map_some, Option.getD_some]

/-- Behind a last run that is no numeral the percent sign is added. -/
theorem percent_of_not_isNumeral (h : LastRun text before run tail) (hrun : ¬ IsNumeral run) :
    percent text = text ++ ['%'] := by
  have hreads : Decimal.ofPlain? run = none := by
    rw [Option.eq_none_iff_forall_ne_some]
    intro decimal hdecimal
    exact hrun ((Decimal.ofPlain?_eq_some_iff h.inside).1 hdecimal).1
  rw [h.percent_eq, hreads, Option.map_none, Option.getD_none]

end LastRun

/-- What the percent key leaves: a hundredth of the last number behind what stands before it,
or the percent sign behind an expression without a last number. -/
theorem percent_cases (text : Text) :
    (∃ before run tail, LastRun text before run tail ∧ IsNumeral run ∧
        percent text = before ++ Display.ofFloat ((Decimal.ofRun run).toFloat / 100)) ∨
      (∀ before run tail, LastRun text before run tail → ¬ IsNumeral run) ∧
        percent text = text ++ ['%'] := by
  by_cases hnone : ∀ c ∈ text, isRunCharacter c = false
  · refine .inr ⟨fun before run tail h hnumeral => ?_, percent_of_none hnone⟩
    obtain ⟨c, more, hcons⟩ := List.exists_cons_of_ne_nil h.nonempty
    have hc := h.inside c (by rw [hcons]; exact List.mem_cons_self)
    rw [hnone c (by simp [h.parts, hcons])] at hc
    exact absurd hc Bool.false_ne_true
  obtain ⟨c, hmem, hc⟩ : ∃ c ∈ text, isRunCharacter c = true := by simpa using hnone
  obtain ⟨before, run, tail, h⟩ := LastRun.exists_of_mem hmem hc
  by_cases hnumeral : IsNumeral run
  · exact .inl ⟨before, run, tail, h, hnumeral, h.percent_of_isNumeral hnumeral⟩
  · refine .inr ⟨fun before' run' tail' h' => ?_, h.percent_of_not_isNumeral hnumeral⟩
    obtain ⟨-, rfl, -⟩ := h.unique h'
    exact hnumeral

/-- Without a last number the percent sign is added. -/
theorem percent_of_no_number {text : Text}
    (h : ∀ before run tail, LastRun text before run tail → ¬ IsNumeral run) :
    percent text = text ++ ['%'] := by
  rcases percent_cases text with ⟨before, run, tail, hlast, hnumeral, -⟩ | ⟨-, hpercent⟩
  · exact absurd hnumeral (h before run tail hlast)
  · exact hpercent

/-- The percent key rewrites exactly the last run of digits and dots.  If the run is a
numeral, a hundredth of the double nearest to its value is written in its place, all that
stands before it is kept and all that stands after it is dropped.  If it is no numeral, or
if there is no run, a percent sign is added.  The mode stays as it is. -/
theorem press_percent (entry : Entry) :
    let pressed := entry.press (.symbol ['%'])
    percentBySearch? entry.expression = some pressed.expression ∧
      pressed.inverse = entry.inverse ∧
      (∀ before run tail, LastRun entry.expression before run tail →
        (IsNumeral run → ∃ x, readNumber? run = some x ∧
          x = Exact.nearest false (Nat.ofDigitChars 10 (run.filter isDigit) 0 * Exact.one)
            (10 ^ ((run.dropWhile (· != '.')).drop 1).length) ∧
          pressed.expression = before ++ Display.ofFloat (x / 100)) ∧
        (¬ IsNumeral run → pressed.expression = entry.expression ++ ['%'])) ∧
      ((∀ c ∈ entry.expression, isRunCharacter c = false) →
        pressed.expression = entry.expression ++ ['%']) := by
  intro pressed
  refine ⟨percentBySearch?_eq entry.expression, rfl, ?_, percent_of_none⟩
  intro before run tail hlast
  refine ⟨fun hnumeral => ?_, hlast.percent_of_not_isNumeral⟩
  refine ⟨(Decimal.ofRun run).toFloat, ?_, Decimal.toFloat_neg_natCast _ _,
    hlast.percent_of_isNumeral hnumeral⟩
  rw [readNumber?_run hlast.inside,
    (Decimal.ofPlain?_eq_some_iff hlast.inside).2 ⟨hnumeral, rfl⟩, Option.map_some]

/-- Behind a root sign, which takes three bytes, a dot may end the last number. -/
theorem press_percent_root :
    let entry := Entry.new.showing "√(200+50.×".toList
    LastRun entry.expression "√(200+".toList "50.".toList "×".toList ∧
      IsNumeral "50.".toList ∧
      search lastNumber entry.expression = some ⟨8, ["50.".toList, "×".toList]⟩ ∧
      (entry.press (.symbol ['%'])).expression = "√(200+0.5".toList := by
  intro entry
  have hlast : LastRun entry.expression "√(200+".toList "50.".toList "×".toList :=
    .of_splitAtLastRun (by decide +kernel) (by decide)
  have hnumeral : IsNumeral "50.".toList := ⟨⟨'5', by decide⟩, by decide⟩
  obtain ⟨x, -, rfl, hpressed⟩ := ((press_percent entry).2.2.1 _ _ _ hlast).1 hnumeral
  refine ⟨hlast, hnumeral, hlast.search_eq, hpressed.trans ?_⟩
  decide +kernel

end PocketCalculator
