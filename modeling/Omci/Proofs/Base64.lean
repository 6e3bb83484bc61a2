import Omci.Base64

/-!
# Base64 reads back

Three octets are one number, and its four digits to the base of 64 are what is
written. At the end of a text one or two octets are filled up with zero bits to
two or three digits, and padding stands for the digits that are missing. So a
text has four characters for three octets, and the octets come back from their
number.
-/

namespace Omci.Base64

theorem value?_symbol {n : Nat} (h : n < 64) : value? (symbol n) = some n := by
  have hall : ∀ n < 64, value? (symbol n) = some n := by decide +kernel
  exact hall n h

/-- Padding is no digit. -/
theorem symbol_ne_pad {n : Nat} (h : n < 64) : symbol n ≠ '=' := by
  have hall : ∀ n < 64, symbol n ≠ '=' := by decide +kernel
  exact hall n h

section Digits

variable {a b c d : Nat} (ha : a < 64) (hb : b < 64)
include ha hb

theorem decode?_two_digits (hzero : (a * 64 + b) % 16 = 0) :
    decode? [symbol a, symbol b, '=', '='] = some [UInt8.ofNat ((a * 64 + b) / 16)] := by
  rw [decode?, value?_symbol ha, value?_symbol hb]
  exact if_pos hzero

variable (hc : c < 64)
include hc

theorem decode?_three_digits (hzero : ((a * 64 + b) * 64 + c) % 4 = 0) :
    decode? [symbol a, symbol b, symbol c, '='] =
      some [UInt8.ofNat (((a * 64 + b) * 64 + c) / 1024),
        UInt8.ofNat (((a * 64 + b) * 64 + c) / 4 % 256)] := by
  rw [decode?, value?_symbol ha, value?_symbol hb, value?_symbol hc]
  · exact if_pos hzero
  · exact symbol_ne_pad hc

theorem decode?_four_digits (hd : d < 64) (rest : List Char) :
    decode? (symbol a :: symbol b :: symbol c :: symbol d :: rest) =
      (decode? rest).map fun octets =>
        UInt8.ofNat ((((a * 64 + b) * 64 + c) * 64 + d) / 65536) ::
        UInt8.ofNat ((((a * 64 + b) * 64 + c) * 64 + d) / 256 % 256) ::
        UInt8.ofNat ((((a * 64 + b) * 64 + c) * 64 + d) % 256) :: octets := by
  rw [decode?, value?_symbol ha, value?_symbol hb, value?_symbol hc, value?_symbol hd]
  · cases decode? rest <;> rfl
  · exact fun _ hpad _ => symbol_ne_pad hd hpad
  · exact fun hpad _ => symbol_ne_pad hd hpad

end Digits

@[simp] theorem decode?_encode (octets : List UInt8) :
    decode? (encode octets) = some octets := by
  fun_induction encode octets with
  | case1 => rfl
  | case2 a n =>
    have ha : a.toNat < 256 := a.toNat_lt_size
    have hnumber : n / 64 * 64 + n % 64 = n := by omega
    have hoctet : n / 16 = a.toNat := by omega
    rw [decode?_two_digits (by omega) (by omega) (by omega), hnumber, hoctet,
      UInt8.ofNat_toNat]
  | case3 a b n =>
    have ha : a.toNat < 256 := a.toNat_lt_size
    have hb : b.toNat < 256 := b.toNat_lt_size
    have hnumber : (n / 4096 * 64 + n / 64 % 64) * 64 + n % 64 = n := by omega
    have hfirst : n / 1024 = a.toNat := by omega
    have hsecond : n / 4 % 256 = b.toNat := by omega
    rw [decode?_three_digits (by omega) (by omega) (by omega) (by omega), hnumber,
      hfirst, hsecond, UInt8.ofNat_toNat, UInt8.ofNat_toNat]
  | case4 a b c rest n ih =>
    have ha : a.toNat < 256 := a.toNat_lt_size
    have hb : b.toNat < 256 := b.toNat_lt_size
    have hc : c.toNat < 256 := c.toNat_lt_size
    have hnumber : ((n / 262144 * 64 + n / 4096 % 64) * 64 + n / 64 % 64) * 64 +
        n % 64 = n := by omega
    have hfirst : n / 65536 = a.toNat := by omega
    have hsecond : n / 256 % 256 = b.toNat := by omega
    have hthird : n % 256 = c.toNat := by omega
    rw [decode?_four_digits (by omega) (by omega) (by omega) (by omega), ih, hnumber,
      hfirst, hsecond, hthird, Option.map_some, UInt8.ofNat_toNat, UInt8.ofNat_toNat,
      UInt8.ofNat_toNat]

theorem length_encode (octets : List UInt8) :
    (encode octets).length = 4 * ((octets.length + 2) / 3) := by
  fun_induction encode octets with
  | case1 => rfl
  | case2 => simp
  | case3 => simp
  | case4 a b c rest n ih =>
    simp only [List.length_cons, ih]
    omega

end Omci.Base64
