import Mathlib.Tactic.Common
import PromptPress.Base64

/-!
# Reading base64 back

The reader takes the symbols of a group one at a time and holds their values until the group is full,
so the law for a whole text follows from one law for a symbol (`readFrom_symbol`) and the law that the
four values of a group stand for its three bytes. `decode_encode` says that every list of bytes is
read back.
-/

namespace PromptPress.Base64

/-! ### Symbols -/

theorem value?_symbol {n : Nat} (h : n < 64) : value? (symbol n) = some n := by
  have hall : ∀ n < 64, value? (symbol n) = some n := by decide +kernel
  exact hall n h

theorem symbol_ne_pad {n : Nat} (h : n < 64) : symbol n ≠ '=' := by
  rintro heq
  have hpad : value? '=' = none := by decide
  have hvalue := value?_symbol h
  rw [heq, hpad] at hvalue
  cases hvalue

theorem symbol_lt {n : Nat} (h : n < 64) : (symbol n).toNat < 128 := by
  have hall : ∀ n < 64, (symbol n).toNat < 128 := by decide +kernel
  exact hall n h

/-- A symbol adds its value to the group, and a fourth one completes the group. -/
theorem readFrom_symbol {n : Nat} (h : n < 64) (groups : Nat) (group : List Nat) (cs : List Char) :
    readFrom groups group 0 false (symbol n :: cs) =
      if group.length = 3 then prepend (groupBytes (group ++ [n])) (readFrom (groups + 1) [] 0 false cs)
      else readFrom groups (group ++ [n]) 0 false cs := by
  rw [readFrom]
  simp [symbol_ne_pad h, value?_symbol h]

/-! ### Groups -/

section Groups

variable (a b c : UInt8)

/-- One byte stands in two values. -/
theorem groupBytes_one : groupBytes [a.toNat / 4, a.toNat % 4 * 16] = [a] := by
  have ha : a.toNat / 4 * 4 + a.toNat % 4 * 16 / 16 = a.toNat := by omega
  rw [groupBytes, ha, UInt8.ofNat_toNat]

/-- Two bytes stand in three values. -/
theorem groupBytes_two :
    groupBytes [a.toNat / 4, a.toNat % 4 * 16 + b.toNat / 16, b.toNat % 16 * 4] = [a, b] := by
  have hb := b.toNat_lt
  have ha : a.toNat / 4 * 4 + (a.toNat % 4 * 16 + b.toNat / 16) / 16 = a.toNat := by omega
  have hb' : (a.toNat % 4 * 16 + b.toNat / 16) % 16 * 16 + b.toNat % 16 * 4 / 4 = b.toNat := by omega
  rw [groupBytes, ha, hb', UInt8.ofNat_toNat, UInt8.ofNat_toNat]

/-- Three bytes stand in four values. -/
theorem groupBytes_three :
    groupBytes [a.toNat / 4, a.toNat % 4 * 16 + b.toNat / 16, b.toNat % 16 * 4 + c.toNat / 64,
      c.toNat % 64] = [a, b, c] := by
  have hb := b.toNat_lt
  have hc := c.toNat_lt
  have ha : a.toNat / 4 * 4 + (a.toNat % 4 * 16 + b.toNat / 16) / 16 = a.toNat := by omega
  have hb' : (a.toNat % 4 * 16 + b.toNat / 16) % 16 * 16 +
      (b.toNat % 16 * 4 + c.toNat / 64) / 4 = b.toNat := by omega
  have hc' : (b.toNat % 16 * 4 + c.toNat / 64) % 4 * 64 + c.toNat % 64 = c.toNat := by omega
  rw [groupBytes, ha, hb', hc', UInt8.ofNat_toNat, UInt8.ofNat_toNat, UInt8.ofNat_toNat]

end Groups

/-! ### Texts -/

/-- Whole groups and the last bytes are read back, whatever the number of groups before them. -/
theorem readFrom_encode (bytes : List UInt8) (groups : Nat) :
    readFrom groups [] 0 false (encode bytes) = .ok bytes := by
  induction bytes using encode.induct generalizing groups with
  | case1 => rfl
  | case2 a =>
    have ha := a.toNat_lt
    rw [encode, readFrom_symbol (by omega), if_neg (by simp), readFrom_symbol (by omega),
      if_neg (by simp)]
    simp [readFrom, groupBytes_one]
  | case3 a b =>
    have ha := a.toNat_lt
    have hb := b.toNat_lt
    rw [encode, readFrom_symbol (by omega), if_neg (by simp), readFrom_symbol (by omega),
      if_neg (by simp), readFrom_symbol (by omega), if_neg (by simp)]
    simp [readFrom, groupBytes_two]
  -- the fourth symbol completes the group, and the rest is read after one more group
  | case4 a b c rest ih =>
    have ha := a.toNat_lt
    have hb := b.toNat_lt
    have hc := c.toNat_lt
    rw [encode, readFrom_symbol (by omega), if_neg (by simp), readFrom_symbol (by omega),
      if_neg (by simp), readFrom_symbol (by omega), if_neg (by simp), readFrom_symbol (by omega),
      if_pos (by simp), ih]
    simp [groupBytes_three, prepend]

/-- A text in base64 holds symbols and padding. -/
theorem mem_encode {bytes : List UInt8} {ch : Char} (h : ch ∈ encode bytes) :
    ch = '=' ∨ ∃ n < 64, ch = symbol n := by
  induction bytes using encode.induct with
  | case1 => simp [encode] at h
  | case2 a =>
    have ha := a.toNat_lt
    simp only [encode, List.mem_cons, List.not_mem_nil, or_false] at h
    rcases h with h | h | h | h
    · exact .inr ⟨_, by omega, h⟩
    · exact .inr ⟨_, by omega, h⟩
    · exact .inl h
    · exact .inl h
  | case3 a b =>
    have ha := a.toNat_lt
    have hb := b.toNat_lt
    simp only [encode, List.mem_cons, List.not_mem_nil, or_false] at h
    rcases h with h | h | h | h
    · exact .inr ⟨_, by omega, h⟩
    · exact .inr ⟨_, by omega, h⟩
    · exact .inr ⟨_, by omega, h⟩
    · exact .inl h
  | case4 a b c rest ih =>
    have ha := a.toNat_lt
    have hb := b.toNat_lt
    have hc := c.toNat_lt
    simp only [encode, List.mem_cons] at h
    rcases h with h | h | h | h | h
    · exact .inr ⟨_, by omega, h⟩
    · exact .inr ⟨_, by omega, h⟩
    · exact .inr ⟨_, by omega, h⟩
    · exact .inr ⟨_, by omega, h⟩
    · exact ih h

theorem head?_encode (bytes : List UInt8) : (encode bytes).head? ≠ some '=' := by
  have hfirst : ∀ a : UInt8, symbol (a.toNat / 4) ≠ '=' := fun a =>
    symbol_ne_pad (by have := a.toNat_lt; omega)
  unfold encode
  split <;> simp [hfirst]

/-- **Every list of bytes is read back.** -/
theorem decode_encode (bytes : List UInt8) : decode (encode bytes) = .ok bytes := by
  have hascii : ((encode bytes).any fun c => 128 ≤ c.toNat) = false := by
    simp only [List.any_eq_false, decide_eq_true_eq, Nat.not_le]
    intro ch hch
    rcases mem_encode hch with rfl | ⟨n, hn, rfl⟩
    · decide
    · exact symbol_lt hn
  rw [decode, hascii, if_neg (by simp), if_neg (by simpa using head?_encode bytes), readFrom_encode]

end PromptPress.Base64
