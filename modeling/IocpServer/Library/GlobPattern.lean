import IocpServer.Library.ByteStrings
import Mathlib.Data.List.Infix
import Mathlib.Algebra.Ring.Int.Defs

/-!
# Glob patterns

The patterns of `SCAN ... MATCH`: `*` stands for any bytes, `?` for any one
byte, `[...]` for one byte of a class and a backslash for the byte behind it.
A class lists bytes and ranges of bytes, in either order of their ends, and
has `^` in front where it lists what does not match; one that is not closed
goes on to the end of the pattern.  Bytes compare as `char`s.

The server's bound on the number of stars in a pattern is left out.
-/

namespace IocpServer.Library

/-- A class of bytes: the ranges it lists, and whether it excludes them. -/
structure GlobClass where
  negated : Bool
  ranges : List (UInt8 × UInt8)
deriving DecidableEq, Repr

namespace GlobClass

/-- One more range; a single byte is a range of its own. -/
def add (bytes : GlobClass) (first last : UInt8) : GlobClass :=
  { bytes with ranges := bytes.ranges ++ [(first, last)] }

/-- A byte lies between the ends of a range. -/
def inRange (byte : UInt8) (range : UInt8 × UInt8) : Bool :=
  let first := range.1.toInt8.toInt
  let last := range.2.toInt8.toInt
  min first last ≤ byte.toInt8.toInt && byte.toInt8.toInt ≤ max first last

/-- A byte is of the class. -/
def accepts (bytes : GlobClass) (byte : UInt8) : Bool :=
  bytes.negated != bytes.ranges.any (inRange byte)

end GlobClass

/-- A part of a pattern. -/
inductive GlobToken where
  | anyBytes
  | anyByte
  | exactly (value : UInt8)
  | oneOf (bytes : GlobClass)
deriving DecidableEq, Repr

/-- The part matches this one byte. -/
def GlobToken.accepts : GlobToken → UInt8 → Bool
  | .anyBytes, _ => false
  | .anyByte, _ => true
  | .exactly value, byte => byte == value
  | .oneOf bytes, byte => bytes.accepts byte

/-- The parts of a pattern; the class is one that is not closed yet. -/
def globTokens : Option GlobClass → ByteString → List GlobToken
  | none, [] => []
  | none, 42 :: rest => .anyBytes :: globTokens none rest
  | none, 63 :: rest => .anyByte :: globTokens none rest
  | none, 91 :: 94 :: rest => globTokens (some ⟨true, []⟩) rest
  | none, 91 :: rest => globTokens (some ⟨false, []⟩) rest
  | none, 92 :: escaped :: rest => .exactly escaped :: globTokens none rest
  | none, byte :: rest => .exactly byte :: globTokens none rest
  | some bytes, [] => [.oneOf bytes]
  | some bytes, 92 :: escaped :: rest =>
      globTokens (some (bytes.add escaped escaped)) rest
  | some bytes, 93 :: rest => .oneOf bytes :: globTokens none rest
  | some bytes, first :: 45 :: last :: rest =>
      globTokens (some (bytes.add first last)) rest
  | some bytes, byte :: rest =>
      globTokens (some (bytes.add byte byte)) rest

/-- The parts match the whole text. -/
def tokensMatch : List GlobToken → ByteString → Bool
  | [], text => text.isEmpty
  | .anyBytes :: tokens, text => text.tails.any (tokensMatch tokens)
  | _ :: _, [] => false
  | token :: tokens, byte :: text =>
      token.accepts byte && tokensMatch tokens text

/-- `stringmatchlen`, with the case of letters. -/
def stringMatch (pattern text : ByteString) : Bool :=
  tokensMatch (globTokens none pattern) text

/-- A byte without a meaning of its own: none of `*`, `?`, `[`, `\`. -/
def isLiteral (byte : UInt8) : Bool :=
  byte != 42 && byte != 63 && byte != 91 && byte != 92

theorem globTokens_literal
    {byte : UInt8} (plain : isLiteral byte = true)
    (rest : ByteString) :
    globTokens none (byte :: rest) = .exactly byte :: globTokens none rest := by
  simp only [isLiteral, Bool.and_eq_true, bne_iff_ne] at plain
  rcases plain with ⟨⟨⟨star, mark⟩, bracket⟩, backslash⟩
  rw [globTokens.eq_def]
  split <;> simp_all

/-- The parts of a text without metacharacters are its bytes. -/
theorem globTokens_append
    {front : ByteString} (plain : ∀ byte ∈ front, isLiteral byte = true)
    (rest : ByteString) :
    globTokens none (front ++ rest) =
      front.map .exactly ++ globTokens none rest := by
  induction front with
  | nil => rfl
  | cons byte front induction =>
      rw [List.forall_mem_cons] at plain
      rw [List.cons_append, globTokens_literal plain.1,
        induction plain.2]
      rfl

/-- Bytes match themselves. -/
theorem tokensMatch_bytes_append
    (front : ByteString) (tokens : List GlobToken) (text : ByteString) :
    tokensMatch (front.map .exactly ++ tokens) text = true ↔
      ∃ rest, text = front ++ rest ∧ tokensMatch tokens rest = true := by
  induction front generalizing text with
  | nil => simp
  | cons byte front induction =>
      cases text with
      | nil => simp [tokensMatch]
      | cons head text =>
          simp only [List.map_cons, List.cons_append, tokensMatch,
            GlobToken.accepts, Bool.and_eq_true, beq_iff_eq, induction,
            List.cons.injEq]
          constructor
          · rintro ⟨same, rest, split, matched⟩
            exact ⟨rest, ⟨same, split⟩, matched⟩
          · rintro ⟨rest, ⟨same, split⟩, matched⟩
            exact ⟨same, rest, split, matched⟩

/-- A star at the end matches whatever is left. -/
theorem tokensMatch_anyBytes (text : ByteString) :
    tokensMatch [.anyBytes] text = true := by
  rw [tokensMatch, List.any_eq_true]
  exact ⟨[], (List.mem_tails _ _).mpr List.nil_suffix, rfl⟩

/-- A text without metacharacters and a star: what begins with the text. -/
theorem stringMatch_star_iff
    {front : ByteString} (plain : ∀ byte ∈ front, isLiteral byte = true)
    (text : ByteString) :
    stringMatch (front ++ literal "*") text = true ↔ front <+: text := by
  have star : globTokens none (literal "*") = [.anyBytes] := by decide
  rw [stringMatch, globTokens_append plain, star,
    tokensMatch_bytes_append]
  constructor
  · rintro ⟨rest, rfl, -⟩
    exact List.prefix_append front rest
  · rintro ⟨rest, rfl⟩
    exact ⟨rest, rfl, tokensMatch_anyBytes rest⟩

example : stringMatch (literal "t[a-cx]?\\*e*") (literal "tb1*e") = true := by
  decide

example : stringMatch (literal "[^a]*") (literal "abc") = false := by
  decide

end IocpServer.Library
