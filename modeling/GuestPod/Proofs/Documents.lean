/-
This file reads the document that the lines of a block or the members of a flow make up.
-/

import GuestPod.Proofs.Streams

namespace GuestPod.Yaml

/-- What a name and its value come to in a document. -/
def Entry.events (nameStyle : Style) (entry : Entry) : List Event :=
  [.scalar ⟨String.ofList entry.name, nameStyle, none⟩,
    .scalar ⟨String.ofList entry.text, entry.style, none⟩]

theorem Entry.length_le_lineTokens (entries : List Entry) :
    entries.length ≤ (entries.flatMap (tokens .plain)).length := by
  induction entries with
  | nil => simp
  | cons entry entries ih =>
      simp only [List.flatMap_cons, tokens, List.length_append, List.length_cons, List.length_nil]
      omega

theorem Entry.length_le_memberTokens (entries : List Entry) :
    entries.length ≤ (memberTokens entries).length := by
  induction entries with
  | nil => simp
  | cons entry entries ih =>
      cases entries with
      | nil => simp [memberTokens, tokens]
      | cons another entries =>
          rw [memberTokens_cons]
          simp only [List.length_append, List.length_cons] at ih ⊢
          omega

namespace Document

variable {entry : Entry} {rest : List Token} {later : List Due} {events : List Event}
  {handles : List (List Char × List Char)}

/-- The parser with no anchor known. -/
def parsing (tokens : List Token) (due : List Due) (events : List Event) : Parse :=
  ⟨tokens, due, events, .none, standardHandles⟩

/-- The four tokens of a line are due one after another. -/
theorem run_line (fuel : Nat) :
    run (fuel + 4) (parsing (entry.tokens .plain ++ rest) (.blockKey :: later) events) =
      run fuel (parsing rest (.blockKey :: later) ((entry.events .plain).reverse ++ events)) :=
  rfl

theorem run_blockEnd (fuel : Nat) :
    run (fuel + 3) (parsing [.blockEnd, .streamEnd] [.blockKey, .documentEnd] events) =
      ⟨(.mappingEnd :: events).reverse, .none, true⟩ :=
  rfl

theorem run_lines (entries : List Entry) (fuel : Nat) (enough : 4 * entries.length + 3 ≤ fuel) :
    run fuel (parsing (entries.flatMap (Entry.tokens .plain) ++ [.blockEnd, .streamEnd])
        [.blockKey, .documentEnd] events) =
      ⟨events.reverse ++ entries.flatMap (Entry.events .plain) ++ [.mappingEnd], .none, true⟩ := by
  induction entries generalizing fuel events with
  | nil =>
      obtain ⟨fuel, rfl⟩ : ∃ less, fuel = less + 3 := ⟨fuel - 3, by simp at enough; omega⟩
      rw [List.flatMap_nil, List.nil_append, run_blockEnd]
      simp
  | cons entry entries ih =>
      rw [List.length_cons] at enough
      obtain ⟨fuel, rfl⟩ : ∃ less, fuel = less + 4 := ⟨fuel - 4, by omega⟩
      rw [List.flatMap_cons, List.append_assoc, run_line, ih fuel (by omega)]
      simp

theorem ofStream_block (tokens : List Token) :
    ofStream ⟨.blockMappingStart :: tokens, true⟩ =
      run (4 * tokens.length + 7) (parsing tokens [.blockKey, .documentEnd] [.mappingStart]) :=
  rfl

/-- A text of lines holds one mapping and nothing else. -/
theorem read_lines {entries : List Entry} (fits : ∀ entry ∈ entries, entry.FitsBlock)
    (filled : entries ≠ []) :
    read (entries.flatMap Entry.line) =
      ⟨.mappingStart :: entries.flatMap (Entry.events .plain) ++ [.mappingEnd], .none, true⟩ := by
  have long := Entry.length_le_lineTokens entries
  rw [read, Stream.read_lines fits filled, List.cons_append, ofStream_block, run_lines]
  · rfl
  · rw [List.length_append]
    omega

/-- A comma stands before every member but the first. -/
def comma (first : Bool) : List Token := if first then [] else [.flowEntry]

theorem run_member (first : Bool) (fuel : Nat) :
    run (fuel + 4) (parsing (comma first ++ (entry.tokens .doubleQuoted ++ rest))
        (.flowKey first :: later) events) =
      run fuel (parsing rest (.flowKey false :: later)
        ((entry.events .doubleQuoted).reverse ++ events)) := by
  cases first <;> rfl

theorem run_flowEnd (fuel : Nat) :
    run (fuel + 3) (parsing [.flowMappingEnd, .streamEnd] [.flowKey false, .documentEnd] events) =
      ⟨(.mappingEnd :: events).reverse, .none, true⟩ :=
  rfl

theorem run_members (entries : List Entry) (filled : entries ≠ []) (first : Bool) (fuel : Nat)
    (enough : 4 * entries.length + 3 ≤ fuel) :
    run fuel (parsing (comma first ++
          (Entry.memberTokens entries ++ [.flowMappingEnd, .streamEnd]))
        [.flowKey first, .documentEnd] events) =
      ⟨events.reverse ++ entries.flatMap (Entry.events .doubleQuoted) ++ [.mappingEnd], .none,
        true⟩ := by
  induction entries generalizing fuel events first with
  | nil => exact absurd rfl filled
  | cons entry entries ih =>
      rw [List.length_cons] at enough
      obtain ⟨fuel, rfl⟩ : ∃ less, fuel = less + 4 := ⟨fuel - 4, by omega⟩
      cases entries with
      | nil =>
          obtain ⟨fuel, rfl⟩ : ∃ less, fuel = less + 3 :=
            ⟨fuel - 3, by rw [List.length_nil] at enough; omega⟩
          rw [Entry.memberTokens, run_member, run_flowEnd]
          simp
      | cons another entries =>
          rw [Entry.memberTokens_cons, List.append_assoc, run_member]
          refine (ih (List.cons_ne_nil _ _) false fuel (by omega)).trans ?_
          simp

theorem ofStream_flow (tokens : List Token) :
    ofStream ⟨.flowMappingStart :: tokens, true⟩ =
      run (4 * tokens.length + 7) (parsing tokens [.flowKey true, .documentEnd] [.mappingStart]) :=
  rfl

theorem read_members {entries : List Entry} (fits : ∀ entry ∈ entries, entry.FitsFlow)
    (filled : entries ≠ []) :
    read ('\x7b' :: (Entry.members entries ++ ['\x7d'])) =
      ⟨.mappingStart :: entries.flatMap (Entry.events .doubleQuoted) ++ [.mappingEnd], .none,
        true⟩ := by
  have long := Entry.length_le_memberTokens entries
  rw [read, Stream.read_members fits filled, List.cons_append, ofStream_flow]
  refine (run_members entries filled true _ ?_).trans rfl
  rw [List.length_append]
  omega

end Document

end GuestPod.Yaml
