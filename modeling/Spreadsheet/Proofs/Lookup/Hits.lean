import Spreadsheet.Lookup.Search
import Spreadsheet.Proofs.Prefixes
import Spreadsheet.Proofs.Value.Order

/-!
# Hits

A search has eyes for the keys of the value's kind only, its candidates. The main theorem,
`find_hits`, says which of them it hits. An exact search hits the first candidate that equals the
value. An approximate search hits the first equal one as well, if no candidate before it lies
beyond the value, and otherwise the last candidate before the first one beyond. Where the
candidates are in order, that is the nearest of all that do not lie beyond.
-/

namespace Spreadsheet.Lookup

/-! ## Keys of one kind -/

section Kinds

variable {value key first second third : Value} {toward : Ordering}

/-- A candidate is of the kind of the value looked for. -/
theorem same_kind_of_candidate (h : sameKind value key) : Value.SameKind value key := by
  cases value <;> cases key <;> first | constructor | cases h

/-- Looking for keys that are ordered `toward` the value, a key lies beyond it if it is ordered the
other way. -/
def isBeyond (toward : Ordering) (value key : Value) : Bool := key.compare value == toward.swap

/-- A value is not greater than a key exactly if it compares as less or equal. -/
theorem not_greater_iff : isBeyond .lt value key = false ↔ (key.compare value).isLE := by
  unfold isBeyond
  cases key.compare value <;> decide

/-- A value is not less than a key exactly if the key compares as less or equal. -/
theorem not_less_iff : isBeyond .gt value key = false ↔ (value.compare key).isLE := by
  unfold isBeyond
  rw [Value.compare_swap value key]
  cases key.compare value <;> decide

/-- Not lying beyond passes on, unless it does so over what is not a number. -/
theorem not_beyond_trans (ordered : toward ≠ .eq) (secondNumber : second.isNotNumber = false)
    (firstKind : Value.SameKind first second) (thirdKind : Value.SameKind second third)
    (left : isBeyond toward second first = false) (right : isBeyond toward third second = false) :
    isBeyond toward third first = false := by
  cases toward with
  | eq => exact absurd rfl ordered
  | lt =>
      rw [not_greater_iff] at *
      exact firstKind.is_le_trans secondNumber thirdKind left right
  | gt =>
      rw [not_less_iff] at *
      exact thirdKind.symm.is_le_trans secondNumber firstKind.symm right left

/-- A key that is equal to the value lies beyond it in neither direction. -/
theorem not_beyond_of_equal (h : key.compare value = .eq) (ordered : toward ≠ .eq) :
    isBeyond toward value key = false ∧ isBeyond toward key value = false := by
  unfold isBeyond
  rw [Value.compare_swap value key, h]
  cases toward <;> first | exact ⟨rfl, rfl⟩ | exact absurd rfl ordered

/-- No value lies beyond itself. -/
theorem not_beyond_itself (value : Value) (ordered : toward ≠ .eq) :
    isBeyond toward value value = false := by
  have equal : value.compare value = .eq := by
    have turned := Value.compare_swap value value
    cases order : value.compare value <;> rw [order] at turned <;> first | rfl | cases turned
  exact (not_beyond_of_equal equal ordered).1

end Kinds

/-! ## The nearest candidate -/

namespace Navigator

/-- The hit on the key at a position. -/
def hitAt (navigator : Navigator) (position : Nat) : Hit := ⟨position, navigator.resultAt position⟩

/-- The positions of the keys of a value's kind, from where a walk stands to its end. -/
def candidates (navigator : Navigator) (value : Value) : List Nat :=
  (List.range' navigator.position (navigator.length - navigator.position)).filter fun position =>
    sameKind value (navigator.keyAt position)

/-- Some positions, up to the first one whose key lies beyond the value. -/
def within (navigator : Navigator) (value : Value) (toward : Ordering) (positions : List Nat) :
    List Nat :=
  positions.takeWhile fun position => !isBeyond toward value (navigator.keyAt position)

/-- Of the positions before the first key beyond the value, the first one whose key equals the
value, and otherwise the last one. -/
def nearest (navigator : Navigator) (value : Value) (toward : Ordering) (positions : List Nat) :
    Option Nat :=
  ((navigator.within value toward positions).find? fun position =>
    (navigator.keyAt position).compare value == .eq).or
      (navigator.within value toward positions).getLast?

/-- The keys at some positions are in order: none lies beyond a later one. The result of a
calculation that is not a number has no place in an order. -/
def InOrder (navigator : Navigator) (toward : Ordering) (positions : List Nat) : Prop :=
  positions.Pairwise fun earlier later =>
    (navigator.keyAt earlier).isNotNumber = false ∧ (navigator.keyAt later).isNotNumber = false ∧
      isBeyond toward (navigator.keyAt later) (navigator.keyAt earlier) = false

/-- The nearest key is looked for among the candidates in turn, and one that lies beyond the value
ends the search. -/
theorem nearest_cons (navigator : Navigator) (value : Value) (toward : Ordering) (position : Nat)
    (rest : List Nat) :
    navigator.nearest value toward (position :: rest) =
      if isBeyond toward value (navigator.keyAt position) then none
      else if (navigator.keyAt position).compare value = .eq then some position
      else (navigator.nearest value toward rest).or (some position) := by
  unfold nearest within
  by_cases beyond : isBeyond toward value (navigator.keyAt position)
  · rw [List.takeWhile_cons_of_neg (by simp [beyond]), if_pos beyond]
    rfl
  · rw [List.takeWhile_cons_of_pos (by simp [beyond]), if_neg beyond]
    by_cases equal : (navigator.keyAt position).compare value = .eq
    · rw [List.find?_cons_of_pos (by simp [equal]), if_pos equal]
      rfl
    · rw [List.find?_cons_of_neg (by simp [equal]), if_neg equal]
      rw [List.getLast?_cons, ← Option.or_some, ← Option.or_assoc]

/-- The nearest of some positions has an equal key, or else it is the last one before the first key
beyond the value. -/
theorem nearest_cases (navigator : Navigator) (value : Value) (toward : Ordering)
    (positions : List Nat) :
    (∃ position ∈ navigator.within value toward positions,
        (navigator.keyAt position).compare value = .eq ∧
          navigator.nearest value toward positions = some position) ∨
      (∃ before position, navigator.within value toward positions = before ++ [position] ∧
        navigator.nearest value toward positions = some position) ∨
      navigator.within value toward positions = [] ∧
        navigator.nearest value toward positions = none := by
  unfold nearest
  cases equal : (navigator.within value toward positions).find? fun position =>
      (navigator.keyAt position).compare value == .eq with
  | some position =>
      have same := List.find?_some equal
      exact .inl ⟨position, List.mem_of_find?_eq_some equal, by simpa using same, rfl⟩
  | none =>
      cases last : (navigator.within value toward positions).getLast? with
      | some position =>
          obtain ⟨before, split⟩ := List.getLast?_eq_some_iff.mp last
          exact .inr (.inl ⟨before, position, split, rfl⟩)
      | none => exact .inr (.inr ⟨List.getLast?_eq_none_iff.mp last, rfl⟩)

end Navigator

/-! ## The two searches -/

section Search

variable {navigator : Navigator} {value : Value} {toward : Ordering}

/-- An exact search takes the first key that is a match. -/
theorem find_exact_eq (pattern : Option (List Piece)) (ahead : Nat) :
    (findExact pattern value ahead navigator).1 =
      ((List.range' navigator.position (ahead + 1)).find? fun position =>
        isExact pattern value (navigator.keyAt position)).map navigator.hitAt := by
  induction ahead generalizing navigator with
  | zero =>
      show (if isExact pattern value (navigator.keyAt navigator.position) then _ else _) = _
      rw [List.range'_one, List.find?_singleton]
      split <;> rfl
  | succ ahead ih =>
      rw [List.range'_succ, List.find?_cons, findExact]
      show (if isExact pattern value (navigator.keyAt navigator.position) then _ else _ :
        Option Hit × Navigator).1 = _
      cases isExact pattern value (navigator.keyAt navigator.position) with
      | true => rfl
      | false => exact ih

/-- A search goes past a key of another kind, ends with an equal one or with one beyond the value,
and goes past any other key with a hit on it. -/
theorem nearest_step (ordered : toward ≠ .eq) (position : Nat) (best : Option Hit) (rest : List Nat)
    (goOn : Option Hit → Option Hit × Navigator)
    (h : ∀ best, (goOn best).1 = ((navigator.nearest value toward (rest.filter fun position =>
      sameKind value (navigator.keyAt position))).map navigator.hitAt).or best) :
    (if !sameKind value (navigator.keyAt position) then goOn best
      else if (navigator.keyAt position).compare value = .eq then
        (some (navigator.hitAt position), navigator)
      else if (navigator.keyAt position).compare value = toward then
        goOn (some (navigator.hitAt position))
      else (best, navigator)).1 =
    ((navigator.nearest value toward ((position :: rest).filter fun position =>
      sameKind value (navigator.keyAt position))).map navigator.hitAt).or best := by
  rw [List.filter_cons]
  by_cases kind : sameKind value (navigator.keyAt position)
  · rw [if_neg (by simp [kind]), if_pos kind, Navigator.nearest_cons]
    by_cases equal : (navigator.keyAt position).compare value = .eq
    · have within := (not_beyond_of_equal equal ordered).1
      rw [if_pos equal, if_neg (by simp [within]), if_pos equal]
      rfl
    · rw [if_neg equal, if_neg equal]
      by_cases near : (navigator.keyAt position).compare value = toward
      · have within : isBeyond toward value (navigator.keyAt position) = false := by
          rw [isBeyond, near]
          cases toward <;> first | rfl | exact absurd rfl ordered
        rw [if_pos near, if_neg (by simp [within]), h, Option.map_or, Option.or_assoc]
        rfl
      · have beyond : isBeyond toward value (navigator.keyAt position) := by
          unfold isBeyond
          revert equal near ordered
          cases (navigator.keyAt position).compare value <;> cases toward <;> decide
        rw [if_neg near, if_pos beyond]
        rfl
  · rw [if_pos (by simp [kind]), if_neg kind]
    exact h best

/-- An approximate search takes the nearest candidate, or what it has found before if there is
none. -/
theorem find_nearest_eq (ordered : toward ≠ .eq) (ahead : Nat) (best : Option Hit) :
    (findNearest value toward ahead best navigator).1 =
      ((navigator.nearest value toward
        ((List.range' navigator.position (ahead + 1)).filter fun position =>
          sameKind value (navigator.keyAt position))).map navigator.hitAt).or best := by
  induction ahead generalizing navigator best with
  | zero =>
      rw [findNearest, List.range'_one]
      exact nearest_step ordered navigator.position best [] (fun best => (best, navigator))
        fun best => rfl
  | succ ahead ih =>
      rw [findNearest, List.range'_succ]
      exact nearest_step ordered navigator.position best
        (List.range' (navigator.position + 1) (ahead + 1))
        (fun best => findNearest value toward ahead best navigator.advanced) fun best => ih best

end Search

/-! ## Candidates in order -/

section Order

variable {navigator : Navigator} {value : Value} {toward : Ordering}

/-- A hit on the nearest of all candidates that do not lie beyond the value; there is none only if
all of them do. -/
def Navigator.IsNearest (navigator : Navigator) (value : Value) (toward : Ordering) :
    Option Hit → Prop
  | some hit => ∃ position ∈ navigator.candidates value, hit = navigator.hitAt position ∧
      isBeyond toward value (navigator.keyAt position) = false ∧
      ∀ other ∈ navigator.candidates value, isBeyond toward value (navigator.keyAt other) = false →
        isBeyond toward (navigator.keyAt position) (navigator.keyAt other) = false
  | none => ∀ other ∈ navigator.candidates value, isBeyond toward value (navigator.keyAt other)

/-- A candidate among the keys is of the kind of the value looked for. -/
theorem same_kind_of_mem {position : Nat} (h : position ∈ navigator.candidates value) :
    Value.SameKind value (navigator.keyAt position) :=
  same_kind_of_candidate (List.mem_filter.mp h).2

/-- Among candidates in order, those before the first one beyond the value are all that do not lie
beyond it. -/
theorem mem_within_iff (ordered : toward ≠ .eq)
    (h : navigator.InOrder toward (navigator.candidates value)) {position : Nat} :
    position ∈ navigator.within value toward (navigator.candidates value) ↔
      position ∈ navigator.candidates value ∧
        isBeyond toward value (navigator.keyAt position) = false := by
  unfold Navigator.within
  rw [take_while_eq_filter, List.mem_filter, Bool.not_eq_true']
  refine List.Pairwise.imp_of_mem ?_ h
  intro earlier later first second inOrder notBeyond
  rw [Bool.not_eq_true'] at notBeyond ⊢
  have firstKind := (same_kind_of_mem first).symm.trans (same_kind_of_mem second)
  exact not_beyond_trans ordered inOrder.2.1 firstKind (same_kind_of_mem second).symm
    inOrder.2.2 notBeyond

/-- If the candidates are in order, the search ends on the nearest key. -/
theorem nearest_of_in_order (ordered : toward ≠ .eq) (valueNumber : value.isNotNumber = false)
    (h : navigator.InOrder toward (navigator.candidates value)) :
    navigator.IsNearest value toward
      ((navigator.nearest value toward (navigator.candidates value)).map navigator.hitAt) := by
  obtain ⟨position, among, equal, found⟩ | ⟨before, position, split, found⟩ | ⟨none, found⟩ :=
    navigator.nearest_cases value toward (navigator.candidates value)
  · rw [found]
    obtain ⟨candidate, notBeyond⟩ := (mem_within_iff ordered h).mp among
    refine ⟨position, candidate, rfl, notBeyond, fun other otherCandidate otherNotBeyond => ?_⟩
    exact not_beyond_trans ordered valueNumber (same_kind_of_mem otherCandidate).symm
      (same_kind_of_mem candidate) otherNotBeyond (not_beyond_of_equal equal ordered).2
  · rw [found]
    have among : position ∈ navigator.within value toward (navigator.candidates value) := by
      rw [split]
      exact List.mem_append_right _ (List.mem_singleton_self _)
    obtain ⟨candidate, notBeyond⟩ := (mem_within_iff ordered h).mp among
    refine ⟨position, candidate, rfl, notBeyond, fun other otherCandidate otherNotBeyond => ?_⟩
    have sorted : navigator.InOrder toward
        (navigator.within value toward (navigator.candidates value)) :=
      h.sublist (List.takeWhile_sublist _)
    have otherAmong := (mem_within_iff ordered h).mpr ⟨otherCandidate, otherNotBeyond⟩
    rw [split] at sorted otherAmong
    obtain earlier | last := List.mem_append.mp otherAmong
    · exact ((List.pairwise_append.mp sorted).2.2 other earlier position
        (List.mem_singleton_self _)).2.2
    · rw [List.mem_singleton.mp last]
      exact not_beyond_itself _ ordered
  · rw [found]
    intro other candidate
    by_contra notBeyond
    have among := (mem_within_iff ordered h).mpr
      ⟨candidate, Bool.eq_false_of_not_eq_true notBeyond⟩
    rw [none] at among
    cases among

end Order

/-! ## The law -/

/-- What a search hits, from wherever a walk stands. Without a pattern, an exact search hits the
first candidate that equals the value. An approximate search hits the nearest candidate before the
first one beyond the value: beyond are the greater ones among ascending keys and the lesser ones
among descending keys. If the candidates are in that order, no other one is nearer. -/
theorem find_hits (value : Value) {navigator : Navigator}
    (inside : navigator.position < navigator.length) :
    (patternOf value = none →
      (find value .exact navigator).1 =
        ((navigator.candidates value).find? fun position =>
          value.compare (navigator.keyAt position) == .eq).map navigator.hitAt) ∧
    ∀ mode toward, (mode, toward) ∈ [(MatchMode.ascending, Ordering.lt), (.descending, .gt)] →
      (find value mode navigator).1 =
        (navigator.nearest value toward (navigator.candidates value)).map navigator.hitAt ∧
      (value.isNotNumber = false → navigator.InOrder toward (navigator.candidates value) →
        navigator.IsNearest value toward (find value mode navigator).1) := by
  have keys : navigator.ahead + 1 = navigator.length - navigator.position := by
    unfold Navigator.ahead
    omega
  refine ⟨fun plain => ?_, fun mode toward approximate => ?_⟩
  · rw [find, find_exact_eq, keys, plain, Navigator.candidates, List.find?_filter]
    simp only [isExact, equals, Bool.decide_and, Bool.decide_eq_true]
  · have ordered : toward ≠ .eq := by
      rintro rfl
      simp at approximate
    have hit : (find value mode navigator).1 =
        (navigator.nearest value toward (navigator.candidates value)).map navigator.hitAt := by
      simp only [List.mem_cons, Prod.mk.injEq, List.not_mem_nil, or_false] at approximate
      obtain ⟨rfl, rfl⟩ | ⟨rfl, rfl⟩ := approximate
      all_goals rw [find, find_nearest_eq ordered, keys, Option.or_none, Navigator.candidates]
    exact ⟨hit, fun valueNumber h => hit ▸ nearest_of_in_order ordered valueNumber h⟩

/-- Three numbers and a text in between, none of them greater than a later one. -/
def fewKeys : Navigator where
  length := 4
  keyAt position := [.number 10.0, .text "x", .number 20.0, .number 40.0].getD position .empty
  resultAt position := [.text "ten", .text "x", .text "twenty", .text "forty"].getD position .empty
  position := 0

/-- Among a few keys, 25 is not found exactly, and the nearest one below it is 20, behind a text
that does not count. -/
theorem find_hits_of_few_keys :
    fewKeys.position < fewKeys.length ∧ (.ascending, .lt) ∈ [(MatchMode.ascending, Ordering.lt),
      (.descending, .gt)] ∧ patternOf (.number 25.0) = none ∧
    (Value.number 25.0).isNotNumber = false ∧
    fewKeys.InOrder .lt (fewKeys.candidates (.number 25.0)) ∧
    (find (.number 25.0) .exact fewKeys).1 = none ∧
    (find (.number 25.0) .ascending fewKeys).1 = some ⟨2, .text "twenty"⟩ ∧
    fewKeys.IsNearest (.number 25.0) .lt (find (.number 25.0) .ascending fewKeys).1 := by
  have inside : fewKeys.position < fewKeys.length := by decide
  have among : (.ascending, .lt) ∈ [(MatchMode.ascending, Ordering.lt), (.descending, .gt)] := by
    decide
  have valueNumber : (Value.number 25.0).isNotNumber = false := by decide +kernel
  have inOrder : fewKeys.InOrder .lt (fewKeys.candidates (.number 25.0)) := by
    unfold Navigator.InOrder
    decide +kernel
  have law := find_hits (.number 25.0) inside
  refine ⟨inside, among, rfl, valueNumber, inOrder, ?_, ?_,
    (law.2 _ _ among).2 valueNumber inOrder⟩
  · have missed : ((fewKeys.candidates (.number 25.0)).find? fun position =>
        (Value.number 25.0).compare (fewKeys.keyAt position) == .eq) = none := by
      decide +kernel
    rw [law.1 rfl, missed]
    rfl
  · have nearest : fewKeys.nearest (.number 25.0) .lt (fewKeys.candidates (.number 25.0)) =
        some 2 := by
      decide +kernel
    rw [(law.2 _ _ among).1, nearest]
    rfl

end Spreadsheet.Lookup
