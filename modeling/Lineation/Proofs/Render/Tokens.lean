import Lineation.Proofs.Text.Lines
import Lineation.Proofs.Text.Quoted
import Lineation.Proofs.TokenStream.Traversal

/-!
# Rows of tokens

A stream is shown token by token by a walk that stops where it meets the end of its direction. It
does stop there, having met each token once, so the rows of one direction are those of the other in
reverse (`Render.tokens_eq`). A row is ended by a newline and holds no other, since the text of a
token stands in it quoted (`Render.count_newline_tokenRow`).

* `Render.tokens_rows`: the walk ends, and what the rows of both directions are.
-/

namespace Lineation.Render

theorem toList_tokenRow (record : LineRecord) (token : Token) :
    (tokenRow record token).toList =
      Nat.toDigits 10 record.number ++ '\t' :: (Text.quoted token.text).toList ++ ['\n'] := by
  simp [tokenRow]

theorem count_newline_tokenRow (record : LineRecord) (token : Token) :
    (tokenRow record token).toList.count '\n' = 1 := by
  have hDigits : '\n' ∉ Nat.toDigits 10 record.number :=
    not_mem_toDigits (by decide) (by decide) record.number
  have hNumber := List.count_eq_zero_of_not_mem hDigits
  have hText := List.count_eq_zero_of_not_mem (Text.newline_not_mem_quoted token.text)
  simp [toList_tokenRow, hNumber, hText]

theorem getLast?_tokenRow (record : LineRecord) (token : Token) :
    (tokenRow record token).toList.getLast? = some '\n' := by
  rw [toList_tokenRow, List.getLast?_concat]

/-- The rows of all tokens in order. -/
def tokenRows (stream : TokenStream) : List String :=
  stream.lines.toList.flatMap fun record => record.tokens.toList.map (tokenRow record)

theorem map_entries_eq (stream : TokenStream) :
    (stream.entries.map fun (record, token) => tokenRow record token) = tokenRows stream := by
  simp [TokenStream.entries, LineRecord.entries, tokenRows, List.map_flatMap, Function.comp_def]

theorem length_tokenRows (stream : TokenStream) :
    (tokenRows stream).length = stream.toList.length := by
  rw [← map_entries_eq, List.length_map, ← stream.map_snd_entries, List.length_map]

theorem tokens_forward (stream : TokenStream) :
    tokens stream .forward = .ok (String.join (tokenRows stream)) := by
  rw [tokens, Cursor.walk_start, ← map_entries_eq]
  rfl

theorem tokens_backward (stream : TokenStream) :
    tokens stream .backward = .ok (String.join (tokenRows stream).reverse) := by
  rw [tokens, Cursor.walk_start, ← map_entries_eq, ← List.map_reverse]
  rfl

theorem exists_of_mem_tokenRows {stream : TokenStream} {row : String} (h : row ∈ tokenRows stream) :
    ∃ record token, row = tokenRow record token := by
  obtain ⟨record, -, hRecord⟩ := List.mem_flatMap.mp h
  obtain ⟨token, -, rfl⟩ := List.mem_map.mp hRecord
  exact ⟨record, token, rfl⟩

/-- Each row is a line. -/
theorem lineCount_join_tokenRows {rows : List String} {stream : TokenStream}
    (h : ∀ row ∈ rows, row ∈ tokenRows stream) : Text.lineCount (String.join rows) = rows.length := by
  apply Text.lineCount_join
  · intro row hMem
    obtain ⟨record, token, rfl⟩ := exists_of_mem_tokenRows (h row hMem)
    exact count_newline_tokenRow record token
  · intro row hMem
    obtain ⟨record, token, rfl⟩ := exists_of_mem_tokenRows (h row hMem)
    exact getLast?_tokenRow record token

/-- A walk from the start of a direction has come to its end, without a refusal, after at most as
many steps as the stream has tokens. Forward it gives the rows of all records and their tokens in
order, each a line of its own with the number of the record that holds the token; backward it gives
the same rows in reverse. There are as many lines as the size of the stream says. -/
theorem tokens_rows (stream : TokenStream) :
    let rows := stream.lines.toList.flatMap fun record => record.tokens.toList.map fun token =>
      toString record.number ++ "\t" ++ Text.quoted token.text ++ "\n"
    (∀ direction fuel, stream.toList.length ≤ fuel →
      ∃ seen, Cursor.walkOnto stream fuel [] (Cursor.start stream direction) =
        .ok (seen, Cursor.finish direction)) ∧
    tokens stream .forward = .ok (String.join rows) ∧
    tokens stream .backward = .ok (String.join rows.reverse) ∧
    (∀ row ∈ rows, row.toList.count '\n' = 1) ∧
    (stream.Counted → ∀ direction text, tokens stream direction = .ok text →
      Text.lineCount text = stream.size) := by
  intro rows
  refine ⟨fun direction fuel hFuel => ⟨_, Cursor.walkOnto_start stream direction hFuel⟩,
    tokens_forward stream, tokens_backward stream, ?_, ?_⟩
  · intro row hMem
    obtain ⟨record, token, rfl⟩ := exists_of_mem_tokenRows hMem
    exact count_newline_tokenRow record token
  · intro hCounted direction text hText
    rw [hCounted.size_eq_length, ← length_tokenRows]
    cases direction with
    | forward =>
      cases (tokens_forward stream).symm.trans hText
      exact lineCount_join_tokenRows fun _ hMem => hMem
    | backward =>
      cases (tokens_backward stream).symm.trans hText
      rw [lineCount_join_tokenRows fun _ hMem => List.mem_reverse.mp hMem, List.length_reverse]

/-- A record without tokens between two that have some, and a newline in a token. -/
theorem tokens_rows_over_record_without_tokens :
    let stream := TokenStream.ofRecords
      [⟨1, "a\n", #[{ text := "a" }, { text := "\n" }]⟩, ⟨2, "", #[]⟩, ⟨3, "b", #[{ text := "b" }]⟩]
    stream.Counted ∧ tokens stream .forward = .ok "1\t\"a\"\n1\t\"\\n\"\n3\t\"b\"\n" ∧
      tokens stream .backward = .ok "3\t\"b\"\n1\t\"\\n\"\n1\t\"a\"\n" ∧
      ∀ direction text, tokens stream direction = .ok text → Text.lineCount text = 3 := by
  intro stream
  have hCounted : stream.Counted := TokenStream.counted_ofLines _
  obtain ⟨-, hForward, hBackward, -, hLines⟩ := tokens_rows stream
  refine ⟨hCounted, hForward.trans ?_, hBackward.trans ?_, hLines hCounted⟩ <;> decide

end Lineation.Render
