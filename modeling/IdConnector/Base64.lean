import IdConnector.UserAttributes

/-! # Decoding base64

`base64.b64decode` as the interpreter computes it: characters outside of the alphabet are
skipped, enough padding ends the text, and a text that ends inside a group of four is
refused. It restores whatever `b64encode` has encoded.
-/

namespace IdConnector

/-- `str.encode()` -/
def utf8 (text : List Char) : List UInt8 := text.flatMap String.utf8EncodeChar

/-- The table `table_a2b_base64`. -/
def base64Value (byte : UInt8) : Option Nat :=
  let n := byte.toNat
  if 65 ≤ n ∧ n ≤ 90 then some (n - 65)
  else if 97 ≤ n ∧ n ≤ 122 then some (n - 71)
  else if 48 ≤ n ∧ n ≤ 57 then some (n + 4)
  else if n = 43 then some 62
  else if n = 47 then some 63
  else none

/-- `binascii.a2b_base64`, without a result for a `binascii.Error`. `quadPos` is the position in
    the group of four, `leftchar` what the last character left over, `pads` counts the padding. -/
def a2bBase64 (quadPos leftchar pads : Nat) : List UInt8 → Option (List UInt8)
  | [] => if quadPos = 0 then some [] else none
  | byte :: rest =>
      if byte = 61 then
        if 2 ≤ quadPos then
          if 4 ≤ quadPos + (pads + 1) then some [] else a2bBase64 quadPos leftchar (pads + 1) rest
        else a2bBase64 quadPos leftchar pads rest
      else
        match base64Value byte with
        | none => a2bBase64 quadPos leftchar pads rest
        | some value =>
            match quadPos with
            | 0 => a2bBase64 1 value 0 rest
            | 1 => (a2bBase64 2 (value % 16) 0 rest).map (.ofNat (leftchar * 4 + value / 16) :: ·)
            | 2 => (a2bBase64 3 (value % 4) 0 rest).map (.ofNat (leftchar * 16 + value / 4) :: ·)
            | _ => (a2bBase64 0 0 0 rest).map (.ofNat (leftchar * 64 + value) :: ·)

def b64decode (text : List UInt8) : Option (List UInt8) := a2bBase64 0 0 0 text

/-! ## One character -/

def digitByte (n : Nat) : UInt8 := .ofNat (base64Digit n).toNat

private theorem utf8_base64Digit_all : ∀ n < 64, utf8 [base64Digit n] = [digitByte n] ∧
    digitByte n ≠ 61 ∧ base64Value (digitByte n) = some n := by
  decide +kernel

theorem utf8_cons (c : Char) (rest : List Char) : utf8 (c :: rest) = utf8 [c] ++ utf8 rest := by
  simp [utf8]

theorem a2bBase64_value {quadPos leftchar pads value : Nat} {byte : UInt8} {rest : List UInt8}
    (digit : byte ≠ 61) (known : base64Value byte = some value) :
    a2bBase64 quadPos leftchar pads (byte :: rest) =
      match quadPos with
      | 0 => a2bBase64 1 value 0 rest
      | 1 => (a2bBase64 2 (value % 16) 0 rest).map (.ofNat (leftchar * 4 + value / 16) :: ·)
      | 2 => (a2bBase64 3 (value % 4) 0 rest).map (.ofNat (leftchar * 16 + value / 4) :: ·)
      | _ => (a2bBase64 0 0 0 rest).map (.ofNat (leftchar * 64 + value) :: ·) := by
  rw [a2bBase64, if_neg digit, known]

/-- A digit of the alphabet stands for its value. -/
theorem a2bBase64_digit {quadPos leftchar pads value : Nat} (small : value < 64)
    (rest : List Char) :
    a2bBase64 quadPos leftchar pads (utf8 (base64Digit value :: rest)) =
      match quadPos with
      | 0 => a2bBase64 1 value 0 (utf8 rest)
      | 1 => (a2bBase64 2 (value % 16) 0 (utf8 rest)).map (.ofNat (leftchar * 4 + value / 16) :: ·)
      | 2 => (a2bBase64 3 (value % 4) 0 (utf8 rest)).map (.ofNat (leftchar * 16 + value / 4) :: ·)
      | _ => (a2bBase64 0 0 0 (utf8 rest)).map (.ofNat (leftchar * 64 + value) :: ·) := by
  obtain ⟨encoded, digit, known⟩ := utf8_base64Digit_all value small
  rw [utf8_cons, encoded]
  exact a2bBase64_value digit known

theorem utf8_pad (rest : List Char) : utf8 ('=' :: rest) = 61 :: utf8 rest := by
  rw [utf8_cons]
  rfl

/-! ## Whole texts -/

theorem ofNat_toNat_eq {n : Nat} {byte : UInt8} (same : n = byte.toNat) : UInt8.ofNat n = byte := by
  rw [same]
  exact UInt8.ofNat_toNat

theorem b64decode_encode (key : List UInt8) : b64decode (utf8 (b64encode key)) = some key := by
  unfold b64decode
  induction key using b64encode.induct with
  | case1 => rfl
  | case2 a =>
      have ha := a.toNat_lt
      simp only [b64encode]
      rw [a2bBase64_digit (by omega)]
      simp only
      rw [a2bBase64_digit (by omega), utf8_pad, utf8_pad]
      simp only [a2bBase64, ↓reduceIte, Nat.reduceLeDiff, Nat.reduceAdd, Option.map_some,
        Option.some.injEq, List.cons.injEq, and_true]
      exact ofNat_toNat_eq (by omega)
  | case3 a b =>
      have ha := a.toNat_lt
      have hb := b.toNat_lt
      simp only [b64encode]
      rw [a2bBase64_digit (by omega)]
      simp only
      rw [a2bBase64_digit (by omega)]
      simp only
      rw [a2bBase64_digit (by omega), utf8_pad]
      simp only [a2bBase64, ↓reduceIte, Nat.reduceLeDiff, Nat.reduceAdd, Option.map_some,
        Option.some.injEq, List.cons.injEq, and_true]
      exact ⟨ofNat_toNat_eq (by omega), ofNat_toNat_eq (by omega)⟩
  | case4 a b c rest ih =>
      have ha := a.toNat_lt
      have hb := b.toNat_lt
      have hc := c.toNat_lt
      simp only [b64encode, List.cons_append, List.nil_append]
      rw [a2bBase64_digit (by omega)]
      simp only
      rw [a2bBase64_digit (by omega)]
      simp only
      rw [a2bBase64_digit (by omega)]
      simp only
      rw [a2bBase64_digit (by omega), ih]
      simp only [Option.map_some, Option.some.injEq, List.cons.injEq, and_true]
      exact ⟨ofNat_toNat_eq (by omega), ofNat_toNat_eq (by omega), ofNat_toNat_eq (by omega)⟩

end IdConnector
