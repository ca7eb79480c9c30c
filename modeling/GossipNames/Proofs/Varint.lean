import GossipNames.Encoding.Varint

/-! Reading back what was written as a variable-length integer, and what else is read as one. -/

namespace GossipNames.Varint

theorem encode_small {value : Nat} (small : value < 128) : encode value = [UInt8.ofNat value] := by
  rw [encode, if_pos small]

theorem encode_large {value : Nat} (large : ¬ value < 128) :
    encode value = UInt8.ofNat (value % 128 + 128) :: encode (value / 128) := by
  rw [encode, if_neg large]

private theorem readWithin_small {limit value : Nat} {rest : Bytes} (small : value < 128) :
    readWithin (limit + 1) (UInt8.ofNat value :: rest) = some (value, rest) := by
  have same : (UInt8.ofNat value).toNat = value := by
    rw [UInt8.toNat_ofNat']
    omega
  simp only [readWithin, same, small, if_true]

private theorem readWithin_continued {limit low : Nat} {rest : Bytes} (bound : low < 128) :
    readWithin (limit + 1) (UInt8.ofNat (low + 128) :: rest)
      = (readWithin limit rest).map fun (high, rest) => (low + 128 * high, rest) := by
  have same : (UInt8.ofNat (low + 128)).toNat = low + 128 := by
    rw [UInt8.toNat_ofNat']
    omega
  have continued : ¬ low + 128 < 128 := by omega
  simp only [readWithin, same, continued, if_false, Nat.add_sub_cancel]

/-- Reading needs as many bytes as the number has digits in base 128. -/
theorem readWithin_encode (limit value : Nat) (rest : Bytes) :
    readWithin limit (encode value ++ rest)
      = if value < Nat.pow 128 limit ∧ 0 < limit then some (value, rest) else none := by
  induction limit generalizing value with
  | zero => simp [readWithin]
  | succ limit ih =>
    have power : Nat.pow 128 (limit + 1) = 128 * Nat.pow 128 limit := Nat.pow_succ'
    have positive : 0 < Nat.pow 128 limit := Nat.pow_pos (by decide)
    by_cases small : value < 128
    · have fits : value < Nat.pow 128 (limit + 1) := by omega
      rw [encode_small small, List.singleton_append, readWithin_small small,
        if_pos ⟨fits, Nat.succ_pos limit⟩]
    · rw [encode_large small, List.cons_append, readWithin_continued (by omega), ih]
      have scaled : value / 128 < Nat.pow 128 limit ↔ value < Nat.pow 128 (limit + 1) := by
        rw [power]
        omega
      by_cases fits : value < Nat.pow 128 (limit + 1)
      · have room : 0 < limit := by
          cases limit with
          | zero => exact absurd fits small
          | succ limit => exact Nat.succ_pos limit
        have joined : value % 128 + 128 * (value / 128) = value := Nat.mod_add_div value 128
        rw [if_pos ⟨scaled.mpr fits, room⟩, if_pos ⟨fits, Nat.succ_pos limit⟩]
        exact congrArg (fun number => some (number, rest)) joined
      · rw [if_neg fun both => fits (scaled.mp both.1), if_neg fun both => fits both.1]
        rfl

/-- Numbers of 64 bits are read back, with the bytes that follow; larger ones are refused. -/
theorem read64?_encode (value : Nat) (rest : Bytes) :
    read64? (encode value ++ rest) = if value < UInt64.size then some (value, rest) else none := by
  unfold read64?
  rw [readWithin_encode]
  by_cases fits : value < UInt64.size
  · have within : value < Nat.pow 128 10 := Nat.lt_trans fits (by decide)
    simp [within, fits]
  · by_cases within : value < Nat.pow 128 10 <;> simp [within, fits, Nat.not_lt.mp fits]

theorem encode_ne_nil (value : Nat) : encode value ≠ [] := by
  rw [encode]
  split <;> simp

/-- Only the number zero ends in a byte of zero. -/
theorem getLast?_encode {value : Nat} (positive : value ≠ 0) :
    (encode value).getLast? ≠ some 0 := by
  induction value using encode.induct with
  | case1 value small =>
    rw [encode_small small, List.getLast?_singleton, ne_eq, Option.some.injEq, ← UInt8.toNat_inj,
      UInt8.toNat_ofNat']
    simp only [UInt8.toNat_zero]
    omega
  | case2 value large ih =>
    rw [encode_large large, List.getLast?_cons_of_ne_nil (encode_ne_nil _)]
    exact ih (by omega)

/-- No digit that is zero stands behind all others. -/
def IsMinimal (used : Bytes) : Prop :=
  ¬ (used.length ≠ 1 ∧ used.getLast? = some 0)

theorem isMinimal_encode (value : Nat) : IsMinimal (encode value) := by
  rintro ⟨more, zero⟩
  by_cases small : value < 128
  · rw [encode_small small] at more
    exact more rfl
  · exact getLast?_encode (by omega) zero

/-- The bytes that a number is read from are the ones it is written in, if they are minimal. -/
private theorem readWithin_sound {limit value : Nat} {bytes rest : Bytes}
    (read : readWithin limit bytes = some (value, rest)) :
    value < Nat.pow 128 limit ∧ ∃ used, used ≠ [] ∧ used ++ rest = bytes
      ∧ (IsMinimal used → encode value = used) := by
  induction limit generalizing bytes value with
  | zero => simp [readWithin] at read
  | succ limit ih =>
    have power : Nat.pow 128 (limit + 1) = 128 * Nat.pow 128 limit := Nat.pow_succ'
    have room : 0 < Nat.pow 128 limit := Nat.pow_pos (by decide)
    cases bytes with
    | nil => simp [readWithin] at read
    | cons byte tail =>
      simp only [readWithin] at read
      split at read
      · rename_i small
        cases read
        refine ⟨by omega, [byte], List.cons_ne_nil _ _, rfl, fun _ => ?_⟩
        rw [encode_small small, UInt8.ofNat_toNat]
      · rename_i large
        obtain ⟨⟨high, left⟩, more, same⟩ := Option.map_eq_some_iff.mp read
        cases same
        obtain ⟨bound, used, begun, rfl, minimal⟩ := ih more
        have byteBound := byte.toNat_lt
        refine ⟨by omega, byte :: used, List.cons_ne_nil _ _, rfl, fun whole => ?_⟩
        have last : used.getLast? ≠ some 0 := by
          intro zero
          refine whole ⟨?_, by rw [List.getLast?_cons_of_ne_nil begun, zero]⟩
          have := List.length_pos_iff.mpr begun
          rw [List.length_cons]
          omega
        have digits := minimal fun both => last both.2
        have positive : high ≠ 0 := by
          rintro rfl
          exact last (by rw [← digits, encode_small (by decide)]; rfl)
        have low : (byte.toNat - 128 + 128 * high) % 128 + 128 = byte.toNat := by omega
        have above : (byte.toNat - 128 + 128 * high) / 128 = high := by omega
        rw [encode_large (by omega), low, above, digits, UInt8.ofNat_toNat]

/-- A number that was read took at least one byte. -/
theorem length_of_read64? {bytes rest : Bytes} {value : Nat}
    (read : read64? bytes = some (value, rest)) : rest.length < bytes.length := by
  obtain ⟨-, used, begun, rfl, -⟩ := readWithin_sound (Option.filter_eq_some_iff.mp read).1
  rw [List.length_append]
  exact Nat.lt_add_of_pos_left (List.length_pos_iff.mpr begun)

/-- The bytes of a number of 64 bits with up to six more in front of them. -/
def spelling (surplus : Fin 64) (value : Nat) : Bytes :=
  encode (surplus * UInt64.size + value)

theorem spelling_zero (value : Nat) : spelling 0 value = encode value := by
  rw [spelling, Fin.val_zero, Nat.zero_mul, Nat.zero_add]

/-- Ten bytes have room for six bits more than a number has, and these are not looked at. -/
theorem readMinimal64?_eq_some_iff {bytes rest : Bytes} {value : Nat} :
    readMinimal64? bytes = some (value, rest) ↔
      value < UInt64.size ∧ ∃ surplus, spelling surplus value ++ rest = bytes := by
  have power : Nat.pow 128 10 = 64 * UInt64.size := by decide
  have used : ∀ front : Bytes, (front ++ rest).take ((front ++ rest).length - rest.length) = front := by
    intro front
    rw [List.length_append, Nat.add_sub_cancel, List.take_left]
  constructor
  · intro read
    obtain ⟨⟨number, left⟩, found, read⟩ := Option.bind_eq_some_iff.mp read
    obtain ⟨bound, front, -, rfl, minimal⟩ := readWithin_sound found
    dsimp only at read
    split at read
    · cases read
    · rename_i whole
      cases read
      rw [used] at whole
      have high : number / UInt64.size < 64 := by
        rw [power] at bound
        exact Nat.div_lt_of_lt_mul (by rwa [Nat.mul_comm] at bound)
      have parts : number / UInt64.size * UInt64.size + number % UInt64.size = number :=
        Nat.div_add_mod' number UInt64.size
      refine ⟨Nat.mod_lt _ (by decide), ⟨number / UInt64.size, high⟩, ?_⟩
      rw [spelling, parts, minimal whole]
  · rintro ⟨fits, surplus, rfl⟩
    have few := surplus.isLt
    rw [spelling]
    generalize stated : surplus * UInt64.size + value = number
    have bound : number < Nat.pow 128 10 := by
      rw [power, ← stated]
      simp only [UInt64.size] at fits ⊢
      omega
    have low : number % UInt64.size = value := by
      rw [← stated, Nat.mul_add_mod_self_right, Nat.mod_eq_of_lt fits]
    have found := readWithin_encode 10 number rest
    rw [if_pos ⟨bound, by decide⟩] at found
    unfold readMinimal64?
    rw [found]
    rw [Option.bind_eq_bind, Option.bind_some]
    dsimp only
    rw [used, low]
    exact if_neg (isMinimal_encode number)

/-- A small number stands in one byte, and takes more when there is something in front of it. -/
theorem exists_spelling_cons (surplus : Fin 64) {value : Nat} (small : value < 128) :
    ∃ first rest, spelling surplus value = first :: rest ∧ (first < 128 ↔ surplus = 0) := by
  by_cases plain : surplus = 0
  · refine ⟨UInt8.ofNat value, [], by rw [plain, spelling_zero, encode_small small], ?_⟩
    rw [UInt8.lt_iff_toNat_lt, UInt8.toNat_ofNat']
    simp only [plain, iff_true]
    change value % 256 < 128
    omega
  · have positive : 0 < surplus.val := Nat.pos_of_ne_zero fun zero => plain (Fin.ext zero)
    have large : ¬ surplus * UInt64.size + value < 128 := by
      simp only [UInt64.size]
      omega
    refine ⟨_, _, encode_large large, ?_⟩
    rw [UInt8.lt_iff_toNat_lt, UInt8.toNat_ofNat']
    simp only [plain, iff_false]
    change ¬ ((surplus * UInt64.size + value) % 128 + 128) % 256 < 128
    omega

end GossipNames.Varint
