import Nervora.Json.Decoder

/-! Strings survive their JSON text. -/
namespace Nervora

open Reader

theorem hexValue_digitChar (n : Nat) : hexValue (Nat.digitChar (n % 16)) = some (n % 16) :=
  (by decide : ∀ d : Fin 16, hexValue (Nat.digitChar d.val) = some d.val) ⟨n % 16, Nat.mod_lt _ (by decide)⟩

private theorem run_hexDigit_bind {A : Type} (n : Nat) (f : Nat → Reader Char A) (ts : List Char) :
    (hexDigit >>= f).run (Nat.digitChar (n % 16) :: ts) = (f (n % 16)).run ts := by
  rw [run_bind, hexDigit, run_token_bind, hexValue_digitChar]
  rfl

/-- Four digits are enough for a code unit. -/
theorem reads_codeUnit (n : Nat) (small : n < 0x10000) (rest : List Char) :
    Reads codeUnit (fourDigits n) n rest := by
  have sum : n / 4096 % 16 * 4096 + n / 256 % 16 * 256 + n / 16 % 16 * 16 + n % 16 = n := by omega
  show codeUnit.run (Nat.digitChar (n / 4096 % 16) :: Nat.digitChar (n / 256 % 16) ::
    Nat.digitChar (n / 16 % 16) :: Nat.digitChar (n % 16) :: rest) = _
  rw [codeUnit, run_hexDigit_bind, run_hexDigit_bind, run_hexDigit_bind, run_hexDigit_bind, sum,
    run_pure]

theorem char_scalar (c : Char) : c.toNat < 0xd800 ∨ 0xdfff < c.toNat ∧ c.toNat < 0x110000 := c.valid

theorem reads_unicodeChar (c : Char) (small : c.toNat < 0x10000) (rest : List Char) :
    Reads unicodeChar (fourDigits c.toNat) c rest := by
  have scalar := char_scalar c
  have read := reads_codeUnit c.toNat small rest
  unfold Reads at *
  rw [unicodeChar, run_bind, read, Option.bind_some, if_neg (by omega), if_neg (by omega),
    Char.ofNat_toNat, run_pure]

theorem reads_surrogates (c : Char) (large : 0x10000 ≤ c.toNat) (rest : List Char) :
    Reads unicodeChar (fourDigits (0xd800 + (c.toNat - 0x10000) / 0x400 % 0x400) ++
      unicodeEscape (0xdc00 + (c.toNat - 0x10000) % 0x400)) c rest := by
  have scalar := char_scalar c
  generalize high : 0xd800 + (c.toNat - 0x10000) / 0x400 % 0x400 = uni
  generalize low : 0xdc00 + (c.toNat - 0x10000) % 0x400 = uni2
  have joined : 0x10000 + ((uni - 0xd800) * 0x400 + (uni2 - 0xdc00)) = c.toNat := by omega
  have second := reads_codeUnit uni2 (by omega) rest
  have mark := Reads.exactly ['\\', 'u'] (fourDigits uni2 ++ rest)
  have first := reads_codeUnit uni (by omega) (unicodeEscape uni2 ++ rest)
  unfold Reads at *
  rw [List.append_assoc, unicodeChar, run_bind, first, Option.bind_some, if_pos (by omega), run_bind,
    unicodeEscape, List.append_assoc, mark, Option.bind_some, run_bind, second, Option.bind_some,
    if_pos (by omega), joined, Char.ofNat_toNat, run_pure]

/-- What stands for a character in a string is read as that character. -/
theorem run_escapeChar (c : Char) (more : Reader Char (List Char)) (rest : List Char) :
    (stringStep more).run (escapeChar c ++ rest) = ((c :: ·) <$> more).run rest := by
  have escaped (d : Char) (short : d ≠ 'u') (named : backslash d = some c) :
      (stringStep more).run (['\\', d] ++ rest) = ((c :: ·) <$> more).run rest := by
    rw [List.cons_append, List.singleton_append, stringStep, run_token_bind, if_neg (by decide),
      if_pos rfl, run_bind, escape, run_token_bind, if_neg short, named]
    rfl
  have coded (text : List Char) (read : Reads unicodeChar text c rest) :
      (stringStep more).run (['\\', 'u'] ++ text ++ rest) = ((c :: ·) <$> more).run rest := by
    unfold Reads at read
    rw [List.append_assoc, List.cons_append, List.singleton_append, stringStep, run_token_bind,
      if_neg (by decide), if_pos rfl, run_bind, escape, run_token_bind, if_pos rfl, read]
    rfl
  unfold escapeChar
  split
  next same => exact escaped '"' (by decide) (by rw [same]; rfl)
  next not_quote =>
    split
    next same => exact escaped '\\' (by decide) (by rw [same]; rfl)
    next not_backslash =>
      split
      next same => exact escaped 'n' (by decide) (by rw [same]; rfl)
      · split
        next same => exact escaped 'r' (by decide) (by rw [same]; rfl)
        · split
          next same => exact escaped 't' (by decide) (by rw [same]; rfl)
          · split
            next same => exact escaped 'f' (by decide) (by rw [same]; rfl)
            · split
              next same => exact escaped 'b' (by decide) (by rw [same]; rfl)
              · split
                next plain =>
                  rw [List.singleton_append, stringStep, run_token_bind, if_neg not_quote,
                    if_neg not_backslash, if_neg (by omega)]
                · split
                  next small => exact coded _ (reads_unicodeChar c small rest)
                  next large =>
                    exact coded (_ ++ _) (reads_surrogates c (Nat.le_of_not_lt large) rest)

theorem reads_scanString (cs rest : List Char) :
    Reads scanString (cs.flatMap escapeChar ++ ['"']) cs rest := by
  induction cs with
  | nil =>
    rw [scanString_eq]
    rfl
  | cons c cs ih =>
    unfold Reads at *
    rw [scanString_eq, List.flatMap_cons, List.append_assoc, List.append_assoc, run_escapeChar,
      run_map, ← List.append_assoc, ih, Option.map_some]

end Nervora
