/-
This file reads a printed JSON string back, whatever its characters are.
-/

import GuestPod.Json.Literal
import GuestPod.Json.Printer

namespace GuestPod.Json

namespace Literal

/-- The controls without an escape of their own come back as units. -/
def pieceOf (c : Char) : Piece :=
  if c.toNat < 0x20 ∧ c.toNat ∉ [8, 9, 10, 12, 13] then .unit c.toNat else .plain c

theorem char_eq_of_toNat {c : Char} {n : Nat} (same : c.toNat = n) : c = Char.ofNat n := by
  rw [← same, Char.ofNat_toNat]

theorem hexNumber_control (n : Nat) (small : n < 0x20) :
    Text.hexNumber ['0', '0', Text.hexDigit (n / 16), Text.hexDigit (n % 16)] = some n := by
  have high := Text.hexValue_hexDigit (n / 16) (by omega)
  have low := Text.hexValue_hexDigit (n % 16) (by omega)
  have zero : Text.hexValue '0' = some 0 := by decide
  simp only [Text.hexNumber, List.foldlM_cons, List.foldlM_nil, zero, high, low, Option.map_some,
    Option.bind_eq_bind, Option.bind_some, Option.pure_def, Option.some.injEq]
  omega

section Scan

variable {done : List Piece} {rest : List Char}

theorem scan_plain {c : Char} (quote : c ≠ '"') (backslash : c ≠ '\\') (visible : 0x20 ≤ c.toNat) :
    scan done (c :: rest) = scan (.plain c :: done) rest := by
  rw [scan.eq_def]
  simp only [if_neg quote, if_neg backslash, if_neg (Nat.not_lt.2 visible)]

theorem scan_letter {letter plain : Char} (named : letter ≠ 'u')
    (escape : simpleEscape letter = some plain) :
    scan done ('\\' :: letter :: rest) = scan (.plain plain :: done) rest := by
  rw [scan.eq_def]
  simp [named, escape]

theorem scan_unit {high second third low : Char} {code : Nat}
    (number : Text.hexNumber [high, second, third, low] = some code) :
    scan done ('\\' :: 'u' :: high :: second :: third :: low :: rest) =
      scan (.unit code :: done) rest := by
  rw [scan.eq_def]
  simp [number]

theorem scan_quote : scan done ('"' :: rest) = (done, .closed rest) := by
  rw [scan.eq_def]
  rfl

end Scan

/-- The text of one character is read as one piece. -/
theorem scan_escaped (done : List Piece) (c : Char) (rest : List Char) :
    scan done (escaped c ++ rest) = scan (pieceOf c :: done) rest := by
  by_cases quote : c = '"'
  · subst quote
    exact scan_letter (by decide) (by decide)
  by_cases backslash : c = '\\'
  · subst backslash
    exact scan_letter (by decide) (by decide)
  by_cases visible : 0x20 ≤ c.toNat
  · have piece : pieceOf c = .plain c := if_neg fun control => Nat.not_lt.2 visible control.1
    rw [piece, escaped, if_neg quote, if_neg backslash, if_pos visible]
    exact scan_plain quote backslash visible
  have small : c.toNat < 0x20 := Nat.lt_of_not_le visible
  by_cases named : c.toNat ∈ [8, 9, 10, 12, 13]
  · simp only [List.mem_cons, List.not_mem_nil, or_false] at named
    rcases named with code | code | code | code | code <;>
      (rw [char_eq_of_toNat code]; exact scan_letter (by decide) (by decide))
  · have piece : pieceOf c = .unit c.toNat := if_pos ⟨small, named⟩
    simp only [List.mem_cons, List.not_mem_nil, or_false, not_or] at named
    obtain ⟨backspace, tab, feed, formFeed, carriage⟩ := named
    rw [piece, escaped, if_neg quote, if_neg backslash, if_neg visible, if_neg backspace,
      if_neg tab, if_neg feed, if_neg formFeed, if_neg carriage]
    exact scan_unit (hexNumber_control c.toNat small)

theorem scan_printed (done : List Piece) (text rest : List Char) :
    scan done (text.flatMap escaped ++ '"' :: rest) =
      ((text.map pieceOf).reverse ++ done, .closed rest) := by
  induction text generalizing done with
  | nil => exact scan_quote
  | cons c text ih =>
      rw [List.flatMap_cons, List.append_assoc, scan_escaped, ih, List.map_cons,
        List.reverse_cons, List.append_assoc, List.singleton_append]

theorem join_unit {content : List Char} {code : Nat} {rest : List Piece}
    (low : isLow code = false) (high : isHigh code = false) :
    join content (.unit code :: rest) = join (Char.ofNat code :: content) rest := by
  rw [join.eq_def]
  simp [low, high]

/-- A unit below the space is no half of a pair. -/
theorem join_pieceOf (content : List Char) (c : Char) (rest : List Piece) :
    join content (pieceOf c :: rest) = join (c :: content) rest := by
  unfold pieceOf
  split
  · rename_i control
    have low : isLow c.toNat = false := by
      simp only [isLow, Bool.and_eq_false_iff, decide_eq_false_iff_not]
      omega
    have high : isHigh c.toNat = false := by
      simp only [isHigh, Bool.and_eq_false_iff, decide_eq_false_iff_not]
      omega
    rw [join_unit low high, Char.ofNat_toNat]
  · rw [join.eq_def]

theorem join_map_pieceOf (content text : List Char) :
    join content (text.map pieceOf) = some (content.reverse ++ text) := by
  induction text generalizing content with
  | nil => simp [join]
  | cons c text ih =>
      rw [List.map_cons, join_pieceOf, ih, List.reverse_cons, List.append_assoc,
        List.singleton_append]

/-- The characters of a string survive its printing, and the text behind it is left over. -/
theorem read_printed (text rest : List Char) :
    Literal.read (text.flatMap escaped ++ '"' :: rest) = .whole text rest := by
  have joined : join [] (text.map pieceOf) = some text := join_map_pieceOf [] text
  simp only [Literal.read, scan_printed, List.append_nil, List.reverse_reverse, joined]

end Literal

theorem printString_append (s : String) (rest : List Char) :
    printString s ++ rest = '"' :: (s.toList.flatMap escaped ++ '"' :: rest) := by
  simp [printString]

end GuestPod.Json
