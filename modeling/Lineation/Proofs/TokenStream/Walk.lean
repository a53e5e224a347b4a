import Lineation.TokenStream.Cursor
import Mathlib.Data.List.Chain

/-!
# The walk through a stream

The positions of a stream stand in a row: before the first token, at each token in order, past the
last one. A step of a cursor goes from one position of the row to the next one, in the order of the
cursor's direction.

* `Position.places`: the positions of the tokens of some records.
* `Direction.row`: all positions in the order of a direction, both ends included. The row of the
  other direction is the same in reverse (`Direction.row_opposite`).
* `Direction.isChain_row`: a step forward in a direction is a step along its row.
* `Direction.stepsFrom?_advance?`, `Direction.stepsFrom?_retreat?`: what several steps do.
* `Direction.entryAt?_getElem`, `Direction.token?_getElem`: the tokens along the row are those of the
  stream, each in the record that holds it.

Records without tokens have no place in the row. That stepping passes over them is the content of
`Position.head?_places` and `Position.head?_reverse_places`.
-/

namespace Lineation

/-- The tokens of a record, each with the record. -/
def LineRecord.entries (record : LineRecord) : List (LineRecord × Token) :=
  record.tokens.toList.map (Prod.mk record)

/-- All tokens in order, each with the record that holds it. -/
def TokenStream.entries (stream : TokenStream) : List (LineRecord × Token) :=
  stream.lines.toList.flatMap LineRecord.entries

theorem TokenStream.map_snd_entries (stream : TokenStream) :
    stream.entries.map Prod.snd = stream.toList := by
  simp [entries, toList, LineRecord.entries, List.map_flatMap, Function.comp_def]

namespace Position

/-- The token at a position, with the record that holds it. -/
def entryAt? (lines : Array LineRecord) : Position → Option (LineRecord × Token)
  | .within line token => lines[line]?.bind fun record => record.tokens[token]?.map (Prod.mk record)
  | _ => none

theorem map_snd_entryAt? (lines : Array LineRecord) (p : Position) :
    (p.entryAt? lines).map Prod.snd = p.token? lines := by
  cases p with
  | beforeFirst => rfl
  | pastLast => rfl
  | within line token =>
    rw [entryAt?, token?]
    cases lines[line]? with
    | none => rfl
    | some record => simp [Function.comp_def]

/-- The positions of the tokens of some records, of which the first has the given index. -/
def places : Nat → List LineRecord → List Position
  | _, [] => []
  | index, record :: rest =>
    (List.range record.size).map (within index) ++ places (index + 1) rest

theorem places_append (index : Nat) (before after : List LineRecord) :
    places index (before ++ after) = places index before ++ places (index + before.length) after := by
  induction before generalizing index with
  | nil => simp [places]
  | cons record before ih =>
    simp only [List.cons_append, places, ih, List.append_assoc, List.length_cons]
    rw [Nat.add_assoc, Nat.add_comm 1]

/-- A position of a place is that of a token. -/
theorem mem_places {p : Position} {index : Nat} {records : List LineRecord} :
    p ∈ places index records ↔
      ∃ line token, p = within (index + line) token ∧
        ∃ record, records[line]? = some record ∧ token < record.size := by
  induction records generalizing index with
  | nil => simp [places]
  | cons record records ih =>
    simp only [places, List.mem_append, List.mem_map, List.mem_range, ih]
    constructor
    · rintro (⟨token, hToken, rfl⟩ | ⟨line, token, rfl, found, hFound, hToken⟩)
      · exact ⟨0, token, rfl, record, rfl, hToken⟩
      · exact ⟨line + 1, token, by rw [Nat.add_right_comm, Nat.add_assoc], found, hFound, hToken⟩
    · rintro ⟨line, token, rfl, found, hFound, hToken⟩
      cases line with
      | zero =>
        cases hFound
        exact Or.inl ⟨token, hToken, rfl⟩
      | succ line =>
        exact Or.inr ⟨line, token, by rw [Nat.add_right_comm, Nat.add_assoc], found, hFound,
          hToken⟩

/-! ## Records without tokens -/

variable {lines : Array LineRecord} {before after : List LineRecord} {record : LineRecord}

theorem getElem?_of_toList_eq (h : lines.toList = before ++ record :: after) :
    lines[before.length]? = some record := by
  rw [← Array.getElem?_toList, h]
  simp

theorem tokensAt_of_toList_eq (h : lines.toList = before ++ record :: after) :
    tokensAt lines before.length = record.size := by
  rw [tokensAt, getElem?_of_toList_eq h]

theorem size_of_toList_eq (h : lines.toList = before ++ after) :
    lines.size = before.length + after.length := by
  rw [← Array.length_toList, h, List.length_append]

theorem isEmpty_iff_size_eq_zero : record.isEmpty = true ↔ record.size = 0 := by
  simp [LineRecord.isEmpty, LineRecord.size]

theorem isEmpty_eq_false_iff : record.isEmpty = false ↔ record.size ≠ 0 := by
  rw [Ne, ← isEmpty_iff_size_eq_zero, Bool.not_eq_true]

theorem firstFrom_cons (h : lines.toList = before ++ record :: after) :
    firstFrom lines before.length =
      if record.isEmpty then firstFrom lines (before.length + 1)
      else .within before.length 0 := by
  have hCount : lines.size - before.length = lines.size - (before.length + 1) + 1 := by
    rw [size_of_toList_eq h, List.length_cons]
    omega
  unfold firstFrom occupiedFrom?
  rw [hCount, occupiedAmong?, getElem?_of_toList_eq h]
  dsimp only
  by_cases hEmpty : record.isEmpty = true
  · rw [if_pos hEmpty, if_pos hEmpty]
  · rw [if_neg hEmpty, if_neg hEmpty]

theorem lastBefore_concat (h : lines.toList = before ++ record :: after) :
    lastBefore lines (before.length + 1) =
      if record.isEmpty then lastBefore lines before.length
      else .within before.length (record.size - 1) := by
  unfold lastBefore
  rw [occupiedBefore?, getElem?_of_toList_eq h]
  dsimp only
  by_cases hEmpty : record.isEmpty = true
  · rw [if_pos hEmpty, if_pos hEmpty]
  · rw [if_neg hEmpty, if_neg hEmpty]
    dsimp only
    rw [tokensAt_of_toList_eq h]

/-- The first position from a record on. -/
theorem head?_places (h : lines.toList = before ++ after) :
    (places before.length after ++ [pastLast]).head? = some (firstFrom lines before.length) := by
  induction after generalizing before with
  | nil =>
    have hSize := size_of_toList_eq h
    have hCount : lines.size - before.length = 0 := by simp [hSize]
    simp [places, firstFrom, occupiedFrom?, hCount, occupiedAmong?]
  | cons record after ih =>
    have hAfter : lines.toList = (before ++ [record]) ++ after := by simp [h]
    have hRest := ih hAfter
    rw [List.length_append, List.length_singleton] at hRest
    rw [firstFrom_cons h, places]
    by_cases hEmpty : record.isEmpty = true
    · rw [if_pos hEmpty, isEmpty_iff_size_eq_zero.mp hEmpty]
      exact hRest
    · have hPositive : 0 < record.size :=
        Nat.pos_of_ne_zero fun hZero => hEmpty (isEmpty_iff_size_eq_zero.mpr hZero)
      rw [if_neg hEmpty, List.append_assoc]
      obtain ⟨n, hn⟩ := Nat.exists_eq_succ_of_ne_zero (Nat.ne_of_gt hPositive)
      simp [hn, List.range_succ_eq_map]

/-- The last position before a record. -/
theorem head?_reverse_places (h : lines.toList = before ++ after) :
    ((places 0 before).reverse ++ [beforeFirst]).head? = some (lastBefore lines before.length) := by
  induction before using List.reverseRecOn generalizing after with
  | nil => rfl
  | append_singleton before record ih =>
    rw [List.append_assoc, List.singleton_append] at h
    have hRest := ih h
    rw [List.length_append, List.length_singleton, lastBefore_concat h, places_append]
    by_cases hEmpty : record.isEmpty = true
    · rw [if_pos hEmpty, places, isEmpty_iff_size_eq_zero.mp hEmpty]
      simpa [places] using hRest
    · have hPositive : 0 < record.size :=
        Nat.pos_of_ne_zero fun hZero => hEmpty (isEmpty_iff_size_eq_zero.mpr hZero)
      obtain ⟨n, hn⟩ := Nat.exists_eq_succ_of_ne_zero (Nat.ne_of_gt hPositive)
      rw [if_neg hEmpty]
      simp [places, hn, List.range_succ]

/-! ## Steps -/

theorem isChain_map_within (h : lines.toList = before ++ record :: after) :
    ((List.range record.size).map (within before.length)).IsChain
      fun p q => p.next? lines = some q ∧ q.previous? lines = some p := by
  rw [List.isChain_iff_getElem]
  intro i hi
  have hNext : i + 1 < record.size := by simpa using hi
  simp [next?, previous?, tokensAt_of_toList_eq h, hNext]

theorem isChain_next? (h : lines.toList = before ++ after) :
    (places before.length after ++ [pastLast]).IsChain fun p q => p.next? lines = some q := by
  induction after generalizing before with
  | nil => exact List.isChain_singleton _
  | cons record after ih =>
    have hAfter : lines.toList = (before ++ [record]) ++ after := by simp [h]
    have hHead := head?_places hAfter
    have hRest := ih hAfter
    rw [List.length_append, List.length_singleton] at hHead hRest
    rw [places, List.append_assoc]
    refine ((isChain_map_within h).imp fun _ _ hStep => hStep.1).append hRest ?_
    intro p hp q hq
    rw [hHead] at hq
    cases hq
    have hLast : record.size ≠ 0 ∧ p = within before.length (record.size - 1) := by
      rw [List.getLast?_map, List.getLast?_range] at hp
      grind
    rw [hLast.2, next?, tokensAt_of_toList_eq h, if_neg (by omega)]

theorem isChain_previous? (h : lines.toList = before ++ after) :
    ((places 0 before).reverse ++ [beforeFirst]).IsChain
      fun p q => p.previous? lines = some q := by
  induction before using List.reverseRecOn generalizing after with
  | nil => exact List.isChain_singleton _
  | append_singleton before record ih =>
    rw [List.append_assoc, List.singleton_append] at h
    have hHead := head?_reverse_places h
    have hRest := ih h
    have hBlock : ((List.range record.size).map (within before.length)).reverse.IsChain
        fun p q => p.previous? lines = some q :=
      List.isChain_reverse.mpr ((isChain_map_within h).imp fun _ _ hStep => hStep.2)
    have hPlaces : (places 0 (before ++ [record])).reverse ++ [beforeFirst] =
        ((List.range record.size).map (within before.length)).reverse ++
          ((places 0 before).reverse ++ [beforeFirst]) := by
      simp [places_append, places]
    rw [hPlaces]
    refine hBlock.append hRest ?_
    intro p hp q hq
    rw [hHead] at hq
    cases hq
    have hFirst : p = within before.length 0 := by
      rw [List.getLast?_reverse, List.head?_map, List.head?_range] at hp
      grind
    have hMin : min before.length lines.size = before.length := by
      rw [size_of_toList_eq h]
      omega
    rw [hFirst, previous?, if_neg (Nat.lt_irrefl 0), hMin]

end Position

namespace Direction

/-- The other direction. -/
def opposite : Direction → Direction
  | forward => backward
  | backward => forward

/-- The positions of all tokens, in the order of the direction. -/
def places (lines : Array LineRecord) : Direction → List Position
  | forward => Position.places 0 lines.toList
  | backward => (Position.places 0 lines.toList).reverse

/-- All positions in the order of the direction: where a walk does not step back to, the tokens, and
where a walk has ended. -/
def row (lines : Array LineRecord) (direction : Direction) : List Position :=
  direction.barrier :: direction.places lines ++ [direction.sentinel]

/-- The tokens in the order of the direction. -/
def tokens (stream : TokenStream) : Direction → List Token
  | forward => stream.toList
  | backward => stream.toList.reverse

/-- The tokens in the order of the direction, each with the record that holds it. -/
def entries (stream : TokenStream) : Direction → List (LineRecord × Token)
  | forward => stream.entries
  | backward => stream.entries.reverse

theorem map_snd_entries (stream : TokenStream) (direction : Direction) :
    (direction.entries stream).map Prod.snd = direction.tokens stream := by
  cases direction with
  | forward => exact stream.map_snd_entries
  | backward => rw [entries, tokens, List.map_reverse, stream.map_snd_entries]

variable {lines : Array LineRecord} {direction : Direction} {p : Position} {i n : Nat}

theorem row_opposite (lines : Array LineRecord) (direction : Direction) :
    direction.opposite.row lines = (direction.row lines).reverse := by
  cases direction <;> simp [row, opposite, places, barrier, sentinel]

theorem length_row (lines : Array LineRecord) (direction : Direction) :
    (direction.row lines).length = (direction.places lines).length + 2 := by
  simp [row]

theorem retreat?_eq (lines : Array LineRecord) (direction : Direction) (p : Position) :
    direction.retreat? lines p =
      (direction.opposite.advance? lines p).filter (· != direction.barrier) := by
  cases direction <;> rfl

theorem advance?_sentinel (lines : Array LineRecord) (direction : Direction) :
    direction.advance? lines direction.sentinel = none := by
  cases direction <;> rfl

theorem advance?_barrier (lines : Array LineRecord) (direction : Direction) :
    direction.advance? lines direction.barrier = some (direction.start lines) := by
  cases direction <;> rfl

/-- A step in a direction goes to the next position of its row. -/
theorem isChain_row (lines : Array LineRecord) (direction : Direction) :
    (direction.row lines).IsChain fun p q => direction.advance? lines p = some q := by
  rw [row, List.cons_append, List.isChain_cons]
  cases direction with
  | forward =>
    have hSplit : lines.toList = [] ++ lines.toList := rfl
    refine ⟨?_, Position.isChain_next? hSplit⟩
    intro q hq
    have hHead := hq.symm.trans (Position.head?_places hSplit)
    rw [Option.some.inj hHead]
    rfl
  | backward =>
    have hSplit : lines.toList = lines.toList ++ [] := (List.append_nil _).symm
    refine ⟨?_, Position.isChain_previous? hSplit⟩
    intro q hq
    have hHead := hq.symm.trans (Position.head?_reverse_places hSplit)
    rw [Option.some.inj hHead, Array.length_toList]
    rfl

/-! ## Steps along the row -/

theorem getElem?_row_zero (lines : Array LineRecord) (direction : Direction) :
    (direction.row lines)[0]? = some direction.barrier := rfl

theorem getElem?_row_succ (h : i < (direction.places lines).length) :
    (direction.row lines)[i + 1]? = (direction.places lines)[i]? := by
  simp [row, List.getElem?_append_left h]

theorem getElem?_row_last (lines : Array LineRecord) (direction : Direction) :
    (direction.row lines)[(direction.places lines).length + 1]? = some direction.sentinel := by
  simp [row]

theorem advance?_getElem (h : (direction.row lines)[i]? = some p) :
    direction.advance? lines p = (direction.row lines)[i + 1]? := by
  obtain ⟨hi, rfl⟩ := List.getElem?_eq_some_iff.mp h
  by_cases hNext : i + 1 < (direction.row lines).length
  · rw [List.getElem?_eq_getElem hNext]
    exact (isChain_row lines direction).getElem i hNext
  · have hLast : i = (direction.places lines).length + 1 := by
      rw [length_row] at hi hNext
      omega
    subst hLast
    have hSentinel := h.symm.trans (getElem?_row_last lines direction)
    rw [Option.some.inj hSentinel, advance?_sentinel, List.getElem?_eq_none (by omega)]

/-- The row has no barrier but the first position. -/
theorem ne_barrier_of_getElem (h : (direction.row lines)[i + 1]? = some p) :
    p ≠ direction.barrier := by
  have hMem : p ∈ direction.places lines ++ [direction.sentinel] := List.mem_of_getElem? h
  have hPlaces : direction.barrier ∉ direction.places lines := by
    cases direction <;> simp [places, barrier, Position.mem_places]
  rintro rfl
  rcases List.mem_append.mp hMem with hMem | hMem
  · exact hPlaces hMem
  · cases direction <;> simp [barrier, sentinel] at hMem

theorem getElem?_row_opposite (h : i ≤ (direction.places lines).length + 1) :
    (direction.opposite.row lines)[i]? =
      (direction.row lines)[(direction.places lines).length + 1 - i]? := by
  rw [row_opposite, List.getElem?_reverse (by rw [length_row]; omega), length_row]
  rfl

/-- A step back goes to the position before, and never to the barrier. -/
theorem retreat?_getElem (h : (direction.row lines)[i + 1]? = some p) :
    direction.retreat? lines p = if i = 0 then none else (direction.row lines)[i]? := by
  have hi : i < (direction.places lines).length + 1 := by
    have hLength := (List.getElem?_eq_some_iff.mp h).1
    rw [length_row] at hLength
    omega
  have hBack : direction.opposite.advance? lines p = (direction.row lines)[i]? := by
    have hOpposite : (direction.opposite.row lines)[(direction.places lines).length - i]? =
        some p := by
      rw [getElem?_row_opposite (by omega), ← h]
      congr 1
      omega
    rw [advance?_getElem hOpposite, getElem?_row_opposite (by omega)]
    congr 1
    omega
  rw [retreat?_eq, hBack]
  cases i with
  | zero => simp [getElem?_row_zero]
  | succ i =>
    obtain ⟨q, hq⟩ : ∃ q, (direction.row lines)[i + 1]? = some q :=
      ⟨_, List.getElem?_eq_getElem (by rw [length_row]; omega)⟩
    simp [hq, ne_barrier_of_getElem hq]

theorem stepsFrom?_advance? (h : (direction.row lines)[i]? = some p) :
    stepsFrom? (direction.advance? lines) n p = (direction.row lines)[i + n]? := by
  induction n generalizing i p with
  | zero => exact h.symm
  | succ n ih =>
    rw [stepsFrom?, advance?_getElem h]
    cases hNext : (direction.row lines)[i + 1]? with
    | none =>
      rw [List.getElem?_eq_none_iff] at hNext
      rw [List.getElem?_eq_none (by omega)]
    | some q =>
      dsimp only
      rw [ih hNext, Nat.add_assoc, Nat.add_comm 1]

theorem stepsFrom?_retreat? (h : (direction.row lines)[i + 1]? = some p) :
    stepsFrom? (direction.retreat? lines) n p =
      if n ≤ i then (direction.row lines)[i - n + 1]? else none := by
  induction n generalizing i p with
  | zero => simp [stepsFrom?, h]
  | succ n ih =>
    rw [stepsFrom?, retreat?_getElem h]
    cases i with
    | zero => simp
    | succ i =>
      obtain ⟨q, hq⟩ : ∃ q, (direction.row lines)[i + 1]? = some q := by
        have hLength := (List.getElem?_eq_some_iff.mp h).1
        exact ⟨_, List.getElem?_eq_getElem (by omega)⟩
      rw [if_neg (Nat.succ_ne_zero i), hq]
      dsimp only
      rw [ih hq]
      simp only [Nat.add_le_add_iff_right, Nat.add_sub_add_right]

/-! ## Tokens along the row -/

theorem map_entryAt?_places {before after : List LineRecord} (h : lines.toList = before ++ after) :
    (Position.places before.length after).map (Position.entryAt? lines) =
      (after.flatMap LineRecord.entries).map some := by
  induction after generalizing before with
  | nil => rfl
  | cons record after ih =>
    have hAfter : lines.toList = (before ++ [record]) ++ after := by simp [h]
    have hRest := ih hAfter
    rw [List.length_append, List.length_singleton] at hRest
    rw [Position.places, List.map_append, hRest, List.flatMap_cons, List.map_append, List.map_map]
    congr 1
    apply List.ext_getElem
    · simp [LineRecord.size, LineRecord.entries]
    · intro i hi hToken
      have hSize : i < record.tokens.size := by simpa [LineRecord.size] using hi
      simp [Position.entryAt?, LineRecord.entries, Position.getElem?_of_toList_eq h, hSize]

theorem map_entryAt?_direction_places (stream : TokenStream) (direction : Direction) :
    (direction.places stream.lines).map (Position.entryAt? stream.lines) =
      (direction.entries stream).map some := by
  have hSplit : stream.lines.toList = [] ++ stream.lines.toList := rfl
  have hForward := map_entryAt?_places hSplit
  cases direction with
  | forward => exact hForward
  | backward =>
    rw [places, entries, List.map_reverse, List.map_reverse]
    exact congrArg List.reverse hForward

theorem length_places_eq (stream : TokenStream) (direction : Direction) :
    (direction.places stream.lines).length = stream.toList.length := by
  have hLength := congrArg List.length (map_entryAt?_direction_places stream direction)
  rw [List.length_map, List.length_map, ← List.length_map Prod.snd, map_snd_entries] at hLength
  rw [hLength]
  cases direction <;> simp [tokens]

theorem entryAt?_getElem {stream : TokenStream}
    (h : (direction.row stream.lines)[i + 1]? = some p) :
    p.entryAt? stream.lines = (direction.entries stream)[i]? := by
  have hEntries := map_entryAt?_direction_places stream direction
  have hLength := congrArg List.length hEntries
  rw [List.length_map, List.length_map] at hLength
  by_cases hi : i < (direction.places stream.lines).length
  · rw [getElem?_row_succ hi] at h
    have hEntry := congrArg (·[i]?) hEntries
    simp only [List.getElem?_map, h, Option.map_some] at hEntry
    cases hFound : (direction.entries stream)[i]? with
    | none => simp [hFound] at hEntry
    | some entry => simpa [hFound] using hEntry
  · have hLast : i = (direction.places stream.lines).length := by
      have hRow := (List.getElem?_eq_some_iff.mp h).1
      rw [length_row] at hRow
      omega
    subst hLast
    have hSentinel := h.symm.trans (getElem?_row_last stream.lines direction)
    rw [Option.some.inj hSentinel, List.getElem?_eq_none (by omega)]
    cases direction <;> rfl

theorem token?_getElem {stream : TokenStream}
    (h : (direction.row stream.lines)[i + 1]? = some p) :
    p.token? stream.lines = (direction.tokens stream)[i]? := by
  rw [← Position.map_snd_entryAt?, entryAt?_getElem h, ← map_snd_entries, List.getElem?_map]

end Direction

end Lineation
