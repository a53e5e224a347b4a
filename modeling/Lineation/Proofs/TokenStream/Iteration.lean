import Lineation.Proofs.TokenStream.Counting
import Lineation.Proofs.TokenStream.Traversal
import Lineation.TokenStream.Iterator

/-!
# Taking tokens from both ends

The two ends of an iterator know nothing of each other. Each stands at a place of the row of its
direction, and nothing there tells it that the tokens ahead were taken from the other end. Only the
number of tokens that are left stops them.

`TokenIterator.Window` ties the two places and the number to the flat list: what was taken from the
front, what is left, and what was taken from the back make up the list. The ends are treated alike,
as the start of one direction each.

* `Window.pull_of_nil`, `Window.pull`: what one call does.
* `Window.pullAll`: what any calls do.
* `Window.drainOnto`: what is left is what comes when only one end is asked.
* `pullAll_meets_once`: all of this for an iterator over a stream.
-/

namespace Lineation

namespace Direction

/-- Some tokens in the order of the direction. -/
def order : Direction → List Token → List Token
  | forward, tokens => tokens
  | backward, tokens => tokens.reverse

variable {direction : Direction} {tokens more : List Token} {token : Token}

@[simp]
theorem length_order (direction : Direction) (tokens : List Token) :
    (direction.order tokens).length = tokens.length := by
  cases direction <;> simp [order]

@[simp]
theorem order_order (direction : Direction) (tokens : List Token) :
    direction.order (direction.order tokens) = tokens := by
  cases direction <;> simp [order]

theorem order_eq_nil_iff : direction.order tokens = [] ↔ tokens = [] := by
  rw [← List.length_eq_zero_iff, length_order, List.length_eq_zero_iff]

theorem order_eq_cons_iff :
    direction.order tokens = token :: more ↔ tokens = direction.order (token :: more) := by
  constructor
  · intro h
    rw [← h, order_order]
  · rintro rfl
    exact order_order direction _

end Direction

namespace TokenIterator

variable {stream : TokenStream} {it : TokenIterator} {taken : Direction → List Token}
  {left more : List Token} {token : Token} {direction : Direction}

/-- Where the end stands at which a direction starts. -/
def position (it : TokenIterator) : Direction → Position
  | .forward => it.front
  | .backward => it.back

/-- An iterator with one token less, of which one end goes to a new position. -/
def moved (it : TokenIterator) (next : Position) : Direction → TokenIterator
  | .forward => { it with front := next, remaining := it.remaining - 1 }
  | .backward => { it with back := next, remaining := it.remaining - 1 }

@[simp]
theorem lines_moved (it : TokenIterator) (next : Position) (direction : Direction) :
    (it.moved next direction).lines = it.lines := by
  cases direction <;> rfl

@[simp]
theorem remaining_moved (it : TokenIterator) (next : Position) (direction : Direction) :
    (it.moved next direction).remaining = it.remaining - 1 := by
  cases direction <;> rfl

@[simp]
theorem position_moved (it : TokenIterator) (next : Position) (direction : Direction) :
    (it.moved next direction).position direction = next := by
  cases direction <;> rfl

theorem position_moved_of_ne {other : Direction} (it : TokenIterator) (next : Position)
    (h : direction ≠ other) : (it.moved next direction).position other = it.position other := by
  cases direction <;> cases other <;> simp_all [moved, position]

theorem pull_eq (it : TokenIterator) (direction : Direction) :
    it.pull direction =
      if it.remaining = 0 then (none, it)
      else
        match (it.position direction).token? it.lines with
        | none => (none, it)
        | some token =>
          (some token,
            it.moved ((direction.advance? it.lines (it.position direction)).getD
              direction.sentinel) direction) := by
  cases direction <;> rfl

/-- The tokens of a stream are those taken from the front, those left, and those taken from the
back. Each end stands after as many tokens of its direction as were taken there. -/
structure Window (stream : TokenStream) (it : TokenIterator) (taken : Direction → List Token)
    (left : List Token) : Prop where
  lines_eq : it.lines = stream.lines
  toList_eq : stream.toList = taken .forward ++ left ++ (taken .backward).reverse
  remaining_eq : it.remaining = left.length
  position_eq : ∀ direction,
    (direction.row stream.lines)[(taken direction).length + 1]? = some (it.position direction)

namespace Window

theorem ofStream (hCounted : stream.Counted) :
    Window stream (ofStream stream) (fun _ => []) stream.toList where
  lines_eq := rfl
  toList_eq := by simp
  remaining_eq := hCounted.size_eq_length
  position_eq direction := by
    have hStart := Direction.advance?_getElem
      (Direction.getElem?_row_zero stream.lines direction)
    rw [Direction.advance?_barrier] at hStart
    rw [List.length_nil, ← hStart]
    cases direction <;> rfl

/-- From either end the stream is what was taken there, what is left, and what was taken at the
other end. -/
theorem tokens_eq (h : Window stream it taken left) (direction : Direction) :
    direction.tokens stream =
      taken direction ++ direction.order left ++ (taken direction.opposite).reverse := by
  cases direction <;> simp [Direction.tokens, Direction.order, Direction.opposite, h.toList_eq]

/-! ## One call -/

theorem pull_of_nil (h : Window stream it taken []) (direction : Direction) :
    it.pull direction = (none, it) := by
  have hRemaining : it.remaining = 0 := h.remaining_eq
  rw [pull_eq, if_pos hRemaining]

/-- While tokens are left, a call gives the next one of its direction. -/
theorem pull (h : Window stream it taken left) (hLeft : direction.order left = token :: more) :
    ∃ next, it.pull direction = (some token, next) ∧
      Window stream next (fun d => taken d ++ if direction = d then [token] else [])
        (direction.order more) := by
  have hLength : left.length = more.length + 1 := by
    rw [← direction.length_order left, hLeft, List.length_cons]
  have hRemaining : it.remaining ≠ 0 := by
    rw [h.remaining_eq, hLength]
    exact Nat.succ_ne_zero _
  have hPosition := h.position_eq direction
  have hToken : (it.position direction).token? stream.lines = some token := by
    rw [Direction.token?_getElem hPosition, h.tokens_eq, hLeft]
    simp
  obtain ⟨next, hNext⟩ :
      ∃ next, (direction.row stream.lines)[(taken direction).length + 1 + 1]? = some next := by
    have hRow := congrArg List.length (h.tokens_eq direction)
    rw [Direction.length_tokens, hLeft, List.length_append, List.length_append,
      List.length_cons] at hRow
    exact ⟨_, List.getElem?_eq_getElem (by rw [Direction.length_row]; omega)⟩
  refine ⟨it.moved next direction, ?_, ?_, ?_, ?_, ?_⟩
  · rw [pull_eq, if_neg hRemaining, h.lines_eq, hToken, Direction.advance?_getElem hPosition, hNext]
    rfl
  · rw [lines_moved, h.lines_eq]
  · have hLeftEq := Direction.order_eq_cons_iff.mp hLeft
    cases direction <;> simp [h.toList_eq, hLeftEq, Direction.order]
  · rw [remaining_moved, h.remaining_eq, hLength, Direction.length_order, Nat.add_sub_cancel]
  · intro other
    by_cases hEnd : direction = other
    · subst hEnd
      rw [if_pos rfl, List.length_append, List.length_singleton, hNext, position_moved]
    · rw [if_neg hEnd, List.append_nil, h.position_eq other, position_moved_of_ne it next hEnd]

end Window

/-! ## Any calls -/

/-- The tokens that came from one end. -/
def takenFrom (direction : Direction) (directions : List Direction)
    (answers : List (Option Token)) : List Token :=
  (directions.zip answers).filterMap fun (asked, answer) =>
    if asked = direction then answer else none

theorem takenFrom_cons_some (direction asked : Direction) (directions : List Direction)
    (token : Token) (answers : List (Option Token)) :
    takenFrom direction (asked :: directions) (some token :: answers) =
      (if asked = direction then [token] else []) ++ takenFrom direction directions answers := by
  by_cases h : asked = direction <;> simp [takenFrom, h]

theorem takenFrom_cons_none (direction asked : Direction) (directions : List Direction)
    (answers : List (Option Token)) :
    takenFrom direction (asked :: directions) (none :: answers) =
      takenFrom direction directions answers := by
  simp [takenFrom]

theorem length_pullAll (it : TokenIterator) (directions : List Direction) :
    (it.pullAll directions).1.length = directions.length := by
  induction directions generalizing it with
  | nil => rfl
  | cons direction directions ih => simp [pullAll, ih]

namespace Window

/-- The tokens that came are those that are no longer left, and once none came none is left. -/
theorem pullAll (h : Window stream it taken left) (directions : List Direction) :
    ∃ answers next rest, it.pullAll directions = (answers, next) ∧
      Window stream next (fun d => taken d ++ takenFrom d directions answers) rest ∧
      answers.countP Option.isSome + rest.length = left.length ∧ (none ∈ answers → rest = []) := by
  induction directions generalizing it taken left with
  | nil => exact ⟨[], it, left, rfl, by simpa [takenFrom] using h, by simp, by simp⟩
  | cons direction directions ih =>
    cases hLeft : direction.order left with
    | nil =>
      obtain rfl := Direction.order_eq_nil_iff.mp hLeft
      obtain ⟨answers, next, rest, hPull, hWindow, hCount, -⟩ := ih h
      have hRest : rest = [] := List.eq_nil_of_length_eq_zero (Nat.eq_zero_of_add_eq_zero_left hCount)
      refine ⟨none :: answers, next, rest, ?_, ?_, by simpa using hCount, fun _ => hRest⟩
      · simp [TokenIterator.pullAll, h.pull_of_nil, hPull]
      · simpa [takenFrom_cons_none] using hWindow
    | cons token more =>
      obtain ⟨moved, hFirst, hMoved⟩ := h.pull hLeft
      obtain ⟨answers, next, rest, hPull, hWindow, hCount, hNone⟩ := ih hMoved
      refine ⟨some token :: answers, next, rest, ?_, ?_, ?_, ?_⟩
      · simp [TokenIterator.pullAll, hFirst, hPull]
      · simpa [takenFrom_cons_some] using hWindow
      · rw [← direction.length_order left, hLeft, List.length_cons, ← direction.length_order more,
          ← hCount]
        simp only [List.countP_cons, Option.isSome_some, if_true]
        omega
      · simpa using hNone

theorem drainOnto (h : Window stream it taken left) (direction : Direction) {fuel : Nat}
    (hFuel : left.length ≤ fuel) (before : List Token) :
    TokenIterator.drainOnto (·.pull direction) fuel before it =
      (direction.order left).reverse ++ before := by
  induction fuel generalizing it taken left before with
  | zero =>
    have hNil : left = [] := List.eq_nil_of_length_eq_zero (Nat.le_zero.mp hFuel)
    subst hNil
    cases direction <;> rfl
  | succ fuel ih =>
    cases hLeft : direction.order left with
    | nil =>
      obtain rfl := Direction.order_eq_nil_iff.mp hLeft
      simp [TokenIterator.drainOnto, h.pull_of_nil]
    | cons token more =>
      obtain ⟨moved, hFirst, hMoved⟩ := h.pull hLeft
      have hLength := congrArg List.length hLeft
      rw [Direction.length_order, List.length_cons] at hLength
      have hRest := ih hMoved (by rw [Direction.length_order]; omega) (token :: before)
      simp [TokenIterator.drainOnto, hFirst, hRest]

/-- What is left comes from the front in order, and from the back in reverse. -/
theorem rest_eq (h : Window stream it taken left) :
    it.rest = left ∧ it.restReversed = left.reverse := by
  have hFuel : left.length ≤ it.remaining := Nat.le_of_eq h.remaining_eq.symm
  have hForward := h.drainOnto .forward hFuel []
  have hBackward := h.drainOnto .backward hFuel []
  rw [List.append_nil] at hForward hBackward
  constructor
  · exact (congrArg List.reverse hForward).trans (List.reverse_reverse left)
  · exact (congrArg List.reverse hBackward).trans (List.reverse_reverse left.reverse)

end Window

/-- Whatever was asked of the two ends, the tokens that came from the front, those still to come and
those that came from the back make up the stream. The size hint is the number still to come. One
more call of either end gives a token exactly when fewer have come than the stream has, and none,
changing nothing, when an earlier call gave none. -/
theorem pullAll_meets_once (stream : TokenStream) (hCounted : stream.Counted)
    (directions : List Direction) :
    let answers := ((ofStream stream).pullAll directions).1
    let it := ((ofStream stream).pullAll directions).2
    answers.length = directions.length ∧
      takenFrom .forward directions answers ++ it.rest ++
        (takenFrom .backward directions answers).reverse = stream.toList ∧
      it.restReversed = it.rest.reverse ∧
      it.sizeHint = (it.rest.length, some it.rest.length) ∧
      ∀ direction,
        ((it.pull direction).1.isSome = true ↔ answers.countP Option.isSome < stream.size) ∧
        (none ∈ answers → it.pull direction = (none, it)) := by
  intro answers it
  obtain ⟨answers', it', left, hPull, hWindow, hCount, hNone⟩ :=
    (Window.ofStream hCounted).pullAll directions
  obtain rfl : answers' = answers := (congrArg Prod.fst hPull).symm
  obtain rfl : it' = it := (congrArg Prod.snd hPull).symm
  obtain ⟨hRest, hReversed⟩ := hWindow.rest_eq
  refine ⟨length_pullAll _ directions, ?_, ?_, ?_, fun direction => ⟨?_, ?_⟩⟩
  · rw [hRest, hWindow.toList_eq]
    simp
  · rw [hReversed, hRest]
  · rw [sizeHint, hRest, hWindow.remaining_eq]
  · rw [hCounted.size_eq_length, ← hCount]
    cases hLeft : direction.order left with
    | nil =>
      obtain rfl := Direction.order_eq_nil_iff.mp hLeft
      simp [hWindow.pull_of_nil]
    | cons token more =>
      obtain ⟨next, hNext, -⟩ := hWindow.pull hLeft
      have hLength := congrArg List.length hLeft
      rw [Direction.length_order, List.length_cons] at hLength
      simp [hNext, hLength]
  · intro hMem
    obtain rfl := hNone hMem
    exact hWindow.pull_of_nil direction

/-- A record without tokens between the two ends, and one call more than there are tokens. -/
theorem pullAll_meets_once_over_record_without_tokens :
    let stream := TokenStream.ofRecords
      [⟨1, "ab", #[{ text := "a" }, { text := "b" }]⟩, ⟨2, "", #[]⟩, ⟨3, "c", #[{ text := "c" }]⟩]
    let directions := [.backward, .forward, .backward, .forward]
    let answers := ((ofStream stream).pullAll directions).1
    let it := ((ofStream stream).pullAll directions).2
    stream.Counted ∧
      takenFrom .forward directions answers ++ it.rest ++
        (takenFrom .backward directions answers).reverse = stream.toList ∧
      none ∈ answers ∧ it.next = (none, it) := by
  intro stream directions answers it
  have hCounted : stream.Counted := rfl
  obtain ⟨-, hMeet, -, -, hCall⟩ := pullAll_meets_once stream hCounted directions
  have hNone : none ∈ answers := by
    have hLast : answers[3]? = some none := rfl
    exact List.mem_of_getElem? hLast
  exact ⟨hCounted, hMeet, hNone, (hCall .forward).2 hNone⟩

end TokenIterator

end Lineation
