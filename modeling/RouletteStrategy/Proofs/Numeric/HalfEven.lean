import RouletteStrategy.Proofs.Numeric.Rounding

/-!
# Rounding to the nearest integer, halves to the even one

The integer nearest to a number, and of two that are equally near the even one, is unique and grows
with the number (`NearestEven.mono`); it is what rounding gives (`Binary64.nearestEven_round`). An
integer that is turned into a float may lose digits, but it stays on the same side of every integer
of at most 53 bits (`Binary64.round_of_ofInt?`).
-/

namespace RouletteStrategy

/-- The integer `y` is the quotient `x / d` to the nearest integer, a half going to the even
neighbour. -/
structure NearestEven (x : Int) (d : Nat) (y : Int) : Prop where
  near : 2 * (x - y * d).natAbs ≤ d
  even : 2 * (x - y * d).natAbs = d → y % 2 = 0

namespace NearestEven

variable {x x' y y' : Int} {d : Nat}

theorem whole (hd : 0 < d) (y : Int) : NearestEven (y * d) d y := by
  constructor <;> rw [Int.sub_self] <;> simp [hd.ne]

theorem neg (h : NearestEven x d y) : NearestEven (-x) d (-y) := by
  obtain ⟨near, even⟩ := h
  have distance : (-x - -y * d).natAbs = (x - y * d).natAbs := by
    rw [Int.neg_mul, Int.sub_neg, ← Int.natAbs_neg]
    congr 1
    omega
  rw [← distance] at near even
  exact ⟨near, fun half => by have := even half; omega⟩

/-- A greater number is not rounded to a smaller integer. -/
theorem mono (hd : 0 < d) (h : NearestEven x d y) (h' : NearestEven x' d y') (le : x ≤ x') :
    y ≤ y' := by
  by_contra reversed
  obtain ⟨k, rfl⟩ : ∃ k : Nat, y = y' + 1 + k := ⟨(y - y' - 1).toNat, by omega⟩
  have product : (y' + 1 + k) * (d : Int) = y' * d + d + (k * d : Nat) := by push_cast; ring
  obtain ⟨near, even⟩ := h
  obtain ⟨near', even'⟩ := h'
  rw [product] at near even
  -- both lie half way between two neighbours, of which one is odd
  have neighbours : k * d = 0 := by omega
  have adjacent : k = 0 := by simpa [hd.ne'] using neighbours
  have := even (by omega)
  have := even' (by omega)
  omega

theorem eq (hd : 0 < d) (h : NearestEven x d y) (h' : NearestEven x d y') : y = y' :=
  Int.le_antisymm (h.mono hd h' le_rfl) (h'.mono hd h le_rfl)

end NearestEven

theorem nearestEven_roundHalfEven (n : Nat) {d : Nat} (hd : 0 < d) :
    NearestEven n d (roundHalfEven n d) := by
  have remainder := Nat.mod_lt n hd
  have division : (n : Int) = (n / d : Nat) * d + (n % d : Nat) := by
    exact_mod_cast (Nat.div_add_mod' n d).symm
  simp only [roundHalfEven]
  generalize n / d = q at division
  generalize n % d = r at remainder division
  have below (near : 2 * r ≤ d) (even : 2 * r = d → q % 2 = 0) : NearestEven n d q := by
    have distance : (n - q * d : Int) = r := by omega
    constructor <;> rw [distance] <;> omega
  have above (near : d ≤ 2 * r) (even : 2 * r = d → q % 2 = 1) : NearestEven n d (q + 1 : Nat) := by
    have distance : (n - (q + 1 : Nat) * d : Int) = r - d := by
      push_cast
      rw [Int.add_mul]
      omega
    constructor <;> rw [distance] <;> omega
  split_ifs with less more even
  · exact below less.le fun half => absurd half less.ne
  · exact above more.le fun half => absurd half more.ne'
  · exact below (Nat.not_lt.mp more) fun _ => even
  · exact above (Nat.not_lt.mp less) fun _ => by omega

namespace Binary64

theorem nearestEven_round (x : Binary64) : NearestEven x.units unitsPerOne x.round := by
  have magnitude := nearestEven_roundHalfEven x.units.natAbs unitsPerOne_pos
  rw [round]
  split_ifs with negative
  · have below := magnitude.neg
    rwa [Int.ofNat_natAbs_of_nonpos negative.le, Int.neg_neg] at below
  · rwa [Int.natAbs_of_nonneg (not_lt.mp negative)] at magnitude

/-! ## Integers beyond 53 bits -/

theorem leadingExponent_le_of_ofRatio {negative s : Bool} {n d m : Nat} {q : Int}
    {canonical : Canonical m q} (hn : n ≠ 0)
    (h : ofRatio negative n d = .finite s m q canonical) :
    s = negative ∧ leadingExponent n d - 52 ≤ q := by
  have parts {m' : Nat} {q' : Int} (least : leadingExponent n d - 52 ≤ q')
      (h : ofParts negative m' q' = .finite s m q canonical) :
      s = negative ∧ leadingExponent n d - 52 ≤ q := by
    unfold ofParts at h
    split at h
    · cases h
      exact ⟨rfl, least⟩
    · cases h
  simp only [ofRatio, if_neg hn] at h
  split at h
  · exact parts (by omega) h
  · exact parts (by omega) h

theorem ofInt_of_ofInt? {i : Int} {x : Binary64} (found : ofInt? i = some x) :
    ofInt i = x ∧ x.isFinite := by
  unfold ofInt? at found
  split at found
  next eq =>
    cases found
    exact ⟨eq, rfl⟩
  next => cases found

theorem leadingExponent_one {n k : Nat} (large : 2 ^ k ≤ n) : k ≤ leadingExponent n 1 := by
  have hn : 0 < n := lt_of_lt_of_le (by positivity) large
  rw [leadingExponent_eq_log hn one_pos, ← Int.zpow_le_iff_le_log one_lt_two (by positivity),
    zpow_natCast, Nat.cast_one, div_one]
  exact_mod_cast large

/-- A float that stands for an integer beyond 53 bits is itself beyond them. -/
theorem units_of_large {i : Int} {x : Binary64} (large : 2 ^ 53 ≤ i.natAbs)
    (found : ofInt? i = some x) :
    2 ^ 53 * unitsPerOne ≤ x.units.natAbs ∧ (i < 0 → x.units ≤ 0) ∧ (0 ≤ i → 0 ≤ x.units) := by
  obtain ⟨eq, finite⟩ := ofInt_of_ofInt? found
  cases x with
  | finite s m q canonical =>
      have exponent := leadingExponent_one large
      obtain ⟨rfl, least⟩ := leadingExponent_le_of_ofRatio (by omega) eq
      have leading : 2 ^ 52 ≤ m := canonical.2.2.2.resolve_right (by omega)
      obtain ⟨k, rfl⟩ : ∃ k : Nat, q = k + 1 := ⟨(q - 1).toNat, by omega⟩
      have shift : m <<< ((k : Int) + 1 + 1074).toNat = m * 2 ^ (k + 1) * unitsPerOne := by
        rw [show ((k : Int) + 1 + 1074).toNat = k + 1 + 1074 by omega, Nat.shiftLeft_add,
          Nat.shiftLeft_eq m, unitsPerOne, Nat.one_shiftLeft, Nat.shiftLeft_eq]
      have magnitude : 2 ^ 53 * unitsPerOne ≤ m <<< ((k : Int) + 1 + 1074).toNat := by
        rw [shift]
        gcongr
        calc 2 ^ 53 = 2 ^ 52 * 2 ^ 1 := rfl
          _ ≤ m * 2 ^ (k + 1) := by gcongr <;> omega
      simp only [units, decide_eq_true_eq]
      split_ifs <;> omega
  | infinite | nan => cases finite

/-- An integer that is turned into a float and rounded stays on the same side of every integer of
at most 53 bits. -/
theorem round_of_ofInt? {b i : Int} {x : Binary64} (small : b.natAbs < 2 ^ 53)
    (found : ofInt? i = some x) : (b ≤ i → b ≤ x.round) ∧ (i ≤ b → x.round ≤ b) := by
  by_cases fits : i.natAbs < 2 ^ 53
  · have exact : x.round = i := (ofInt_of_ofInt? found).1 ▸ round_ofInt fits
    rw [exact]
    exact ⟨id, id⟩
  · obtain ⟨magnitude, negative, positive⟩ := units_of_large (not_lt.mp fits) found
    have bound : (b * unitsPerOne).natAbs ≤ 2 ^ 53 * unitsPerOne := by
      rw [Int.natAbs_mul, Int.natAbs_natCast]
      gcongr
    have whole := NearestEven.whole unitsPerOne_pos b
    refine ⟨fun above => ?_, fun below => ?_⟩
    · have units := positive (by omega)
      exact whole.mono unitsPerOne_pos x.nearestEven_round (by omega)
    · have units := negative (by omega)
      exact x.nearestEven_round.mono unitsPerOne_pos whole (by omega)

end Binary64
end RouletteStrategy
