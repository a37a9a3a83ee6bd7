import Mathlib.Data.List.TakeWhile

/-!
# Byte strings

A `std::string` is a list of bytes that may hold zeros.  What crosses a C
interface is cut at the first zero.
-/

namespace IocpServer.Library

abbrev ByteString := List UInt8

/-- The bytes of an ASCII string literal. -/
def literal (text : String) : ByteString :=
  text.toList.map fun character => character.toNat.toUInt8

/-- What a reader of `c_str()` sees of a string. -/
def cString (text : ByteString) : ByteString :=
  text.takeWhile fun byte => byte != 0

theorem cString_of_zero_not_mem
    {text : ByteString} (noZero : 0 ∉ text) :
    cString text = text := by
  apply List.takeWhile_eq_self_iff.mpr
  intro byte present
  simp only [bne_iff_ne, ne_eq]
  intro zero
  apply noZero
  rw [← zero]
  exact present

theorem zero_not_mem_cString (text : ByteString) : 0 ∉ cString text := by
  intro present
  have notZero := List.mem_takeWhile_imp present
  exact absurd notZero (by decide)

/-- A cut string keeps a beginning that holds no zero. -/
theorem cString_append_of_zero_not_mem
    {front : ByteString} (noZero : 0 ∉ front) (text : ByteString) :
    cString (front ++ text) = front ++ cString text := by
  apply List.takeWhile_append_of_pos
  intro byte present
  simp only [bne_iff_ne, ne_eq]
  intro zero
  apply noZero
  rw [← zero]
  exact present

end IocpServer.Library
