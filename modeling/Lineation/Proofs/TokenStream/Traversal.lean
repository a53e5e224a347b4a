import Lineation.Proofs.TokenStream.Editing
import Lineation.Render

/-!
# Walks reach their end

A walk from the start of a direction ends past the last token and has met every token on its way, in
the order of the direction and each with the record that holds it (`Cursor.walk_start`). It takes as
many steps as there are tokens, however many it may take (`Cursor.walkOnto_start`). On its way it
stands on tokens only, so looking at the token, at its record and at the next position is never
refused. The tokens of a stream can therefore always be shown (`Render.exists_tokens`).
-/

namespace Lineation

namespace Direction

variable {lines : Array LineRecord} {direction : Direction} {p : Position} {i : Nat}

/-- A place of the row before the last one is that of a token. -/
theorem isToken_of_getElem (h : (direction.row lines)[i + 1]? = some p)
    (hi : i < (direction.places lines).length) : p.IsToken lines := by
  rw [getElem?_row_succ hi] at h
  exact mem_places_iff.mp (List.mem_of_getElem? h)

theorem ne_sentinel_of_isToken (h : p.IsToken lines) : p ≠ direction.sentinel := by
  obtain ⟨line, token, rfl, -⟩ := h
  cases direction <;> simp [sentinel]

theorem length_tokens (stream : TokenStream) (direction : Direction) :
    (direction.tokens stream).length = (direction.places stream.lines).length := by
  rw [length_places_eq]
  cases direction <;> simp [tokens]

theorem length_entries (stream : TokenStream) (direction : Direction) :
    (direction.entries stream).length = (direction.places stream.lines).length := by
  rw [← length_tokens, ← map_snd_entries, List.length_map]

end Direction

namespace Cursor

variable {stream : TokenStream} {cursor : Cursor} {i : Nat}

/-- What a walk does at a token. -/
theorem walkOnto_of_isToken (h : cursor.position.IsToken stream.lines) {next : Position}
    (hNext : cursor.direction.advance? stream.lines cursor.position = some next) (fuel : Nat)
    (seen : List (LineRecord × Token)) :
    ∃ entry, cursor.position.entryAt? stream.lines = some entry ∧
      walkOnto stream (fuel + 1) seen cursor =
        walkOnto stream fuel (entry :: seen) { cursor with position := next } := by
  have hEnd : cursor.isEnd = false := by
    simpa [isEnd] using Direction.ne_sentinel_of_isToken h
  obtain ⟨line, token, hPosition, record, hLine, hBound⟩ := h
  have hToken : record.tokens[token]? = some record.tokens[token] :=
    Array.getElem?_eq_getElem hBound
  have hOnRecord : cursor.line stream = .ok record := by
    simp [Cursor.line, hPosition, TokenStream.line, hLine]
  have hOnToken : cursor.token stream = .ok record.tokens[token] := by
    simp [Cursor.token, Cursor.token?, hPosition, Position.token?, hLine, hToken]
  refine ⟨(record, record.tokens[token]), ?_, ?_⟩
  · simp [hPosition, Position.entryAt?, hLine, hToken]
  · simp [walkOnto, hEnd, hOnRecord, hOnToken, advance, hNext, moved]

/-- Past the last token a walk has ended, whether or not it could go on. -/
theorem walkOnto_finish (stream : TokenStream) (direction : Direction) (fuel : Nat)
    (seen : List (LineRecord × Token)) :
    walkOnto stream fuel seen (finish direction) = .ok (seen, finish direction) := by
  cases fuel with
  | zero => rfl
  | succ fuel => simp [walkOnto, isEnd, finish]

/-- The places of a row after the tokens are one, the end of the direction. -/
theorem eq_finish_of_length_le
    (hRow : (cursor.direction.row stream.lines)[i + 1]? = some cursor.position)
    (hi : (cursor.direction.places stream.lines).length ≤ i) :
    cursor = finish cursor.direction := by
  have hBound := (List.getElem?_eq_some_iff.mp hRow).1
  rw [Direction.length_row] at hBound
  obtain rfl : i = (cursor.direction.places stream.lines).length := by omega
  rw [Direction.getElem?_row_last] at hRow
  rw [finish, Option.some.inj hRow]

theorem walkOnto_eq_of_length_le
    (hRow : (cursor.direction.row stream.lines)[i + 1]? = some cursor.position)
    (hi : (cursor.direction.places stream.lines).length ≤ i) (fuel : Nat)
    (seen : List (LineRecord × Token)) :
    walkOnto stream fuel seen cursor =
      .ok (((cursor.direction.entries stream).drop i).reverse ++ seen, finish cursor.direction) := by
  have hDrop : (cursor.direction.entries stream).drop i = [] :=
    List.drop_eq_nil_of_le (by rwa [Direction.length_entries])
  rw [hDrop, eq_finish_of_length_le hRow hi, walkOnto_finish]
  rfl

/-- From a place of its row a walk meets the tokens from there on. -/
theorem walkOnto_eq
    (hRow : (cursor.direction.row stream.lines)[i + 1]? = some cursor.position) {fuel : Nat}
    (hFuel : (cursor.direction.places stream.lines).length ≤ i + fuel)
    (seen : List (LineRecord × Token)) :
    walkOnto stream fuel seen cursor =
      .ok (((cursor.direction.entries stream).drop i).reverse ++ seen, finish cursor.direction) := by
  induction fuel generalizing i cursor seen with
  | zero => exact walkOnto_eq_of_length_le hRow hFuel 0 seen
  | succ fuel ih =>
    by_cases hi : i < (cursor.direction.places stream.lines).length
    · obtain ⟨next, hNext⟩ : ∃ next, (cursor.direction.row stream.lines)[i + 1 + 1]? = some next :=
        ⟨_, List.getElem?_eq_getElem (by rw [Direction.length_row]; omega)⟩
      obtain ⟨entry, hEntry, hWalk⟩ := walkOnto_of_isToken
        (Direction.isToken_of_getElem hRow hi) ((Direction.advance?_getElem hRow).trans hNext)
        fuel seen
      have hRest := @ih { cursor with position := next } (i + 1) hNext
        (by rw [Nat.add_assoc, Nat.add_comm 1]; exact hFuel) (entry :: seen)
      obtain ⟨hBound, rfl⟩ :=
        List.getElem?_eq_some_iff.mp ((Direction.entryAt?_getElem hRow).symm.trans hEntry)
      rw [hWalk, hRest, List.drop_eq_getElem_cons hBound, List.reverse_cons, List.append_assoc]
      rfl
    · exact walkOnto_eq_of_length_le hRow (Nat.le_of_not_lt hi) (fuel + 1) seen

/-- A walk from the start of a direction has ended after as many steps as there are tokens. -/
theorem walkOnto_start (stream : TokenStream) (direction : Direction) {fuel : Nat}
    (hFuel : stream.toList.length ≤ fuel) :
    walkOnto stream fuel [] (start stream direction) =
      .ok ((direction.entries stream).reverse, finish direction) := by
  have hRow : (direction.row stream.lines)[0 + 1]? = some (direction.start stream.lines) := by
    rw [← Direction.advance?_getElem (Direction.getElem?_row_zero stream.lines direction),
      Direction.advance?_barrier]
  have hWalk := @walkOnto_eq stream (start stream direction) 0 hRow fuel
    (by rw [Nat.zero_add]; exact (Direction.length_places_eq stream direction).trans_le hFuel) []
  rwa [List.drop_zero, List.append_nil] at hWalk

/-- A walk from the start of a direction meets all tokens of the stream and ends past the last
one. -/
theorem walk_start (stream : TokenStream) (direction : Direction) :
    (start stream direction).walk stream = .ok (direction.entries stream, finish direction) := by
  rw [walk, walkOnto_start stream direction (by rw [TokenStream.length_toList]; omega)]
  simp

end Cursor

/-- The tokens of a stream can always be shown. -/
theorem Render.exists_tokens (stream : TokenStream) (direction : Direction) :
    ∃ text, Render.tokens stream direction = .ok text := by
  rw [Render.tokens, Cursor.walk_start]
  exact ⟨_, rfl⟩

end Lineation
