import Mathlib
import SubmarineSwap.Secp256k1.Ecdsa
import SubmarineSwap.Proofs.Secp256k1.Group

namespace SubmarineSwap.Secp256k1

instance fact_groupOrder_prime : Fact groupOrder.Prime := ⟨groupOrder_prime⟩

theorem mod_groupOrder_lt (a : Nat) : a % groupOrder < groupOrder := Nat.mod_lt _ (by decide)

/-- A secret scalar is nonzero in the scalar field. -/
theorem SecretKey.natCast_scalar_ne_zero (sk : SecretKey) : (sk.scalar : ZMod groupOrder) ≠ 0 :=
  natCast_ne_zero_of_lt sk.scalar_pos.ne' sk.scalar_lt

/-- The generator as an element of the curve's group. -/
noncomputable def generatorPoint : curve.toAffine.Point := (Jacobian.ofPoint generator).toGroup

theorem groupOrder_nsmul_generatorPoint : groupOrder • generatorPoint = 0 := by
  -- one run of the model's own double-and-add ends at infinity
  have run : (Jacobian.smul groupOrder (Jacobian.ofPoint generator)).z = 0 := by decide +kernel
  rw [generatorPoint, ← Jacobian.toGroup_smul (Jacobian.ofPoint_onCurve generator_onCurve),
    Jacobian.toGroup_of_z_eq_zero run]

theorem generatorPoint_ne_zero : generatorPoint ≠ 0 := by
  intro atInfinity
  have read := Jacobian.toPoint_eq_ofGroup (Jacobian.ofPoint_onCurve generator_onCurve)
  rw [← generatorPoint, atInfinity] at read
  simp [Jacobian.toPoint, Jacobian.ofPoint, Point.ofGroup] at read

theorem addOrderOf_generatorPoint : addOrderOf generatorPoint = groupOrder :=
  addOrderOf_eq_prime groupOrder_nsmul_generatorPoint generatorPoint_ne_zero

/-- Multiples of the generator agree exactly when their scalars agree modulo the group order. -/
theorem nsmul_generatorPoint_eq_iff {a b : Nat} :
    a • generatorPoint = b • generatorPoint ↔ (a : ZMod groupOrder) = b := by
  rw [nsmul_eq_nsmul_iff_modEq, addOrderOf_generatorPoint, ZMod.natCast_eq_natCast_iff]

theorem neg_nsmul_generatorPoint {k : Nat} (le : k ≤ groupOrder) :
    -(k • generatorPoint) = (groupOrder - k) • generatorPoint := by
  refine (eq_neg_of_add_eq_zero_left ?_).symm
  rw [← add_nsmul, Nat.sub_add_cancel le, groupOrder_nsmul_generatorPoint]

theorem generator_smul_eq (k : Nat) : generator.smul k = Point.ofGroup (k • generatorPoint) :=
  Point.smul_eq_ofGroup generator_onCurve k

theorem generator_smul_isSome {k : Nat} (nonzero : (k : ZMod groupOrder) ≠ 0) :
    ∃ q, generator.smul k = some q := by
  have finite : k • generatorPoint ≠ 0 := by
    rw [← zero_nsmul generatorPoint, Ne, nsmul_generatorPoint_eq_iff, Nat.cast_zero]
    exact nonzero
  rw [generator_smul_eq]
  exact Option.ne_none_iff_exists'.mp (mt Point.ofGroup_eq_none_iff.mp finite)

/-- The public key of a secret scalar `d` is the point `d · G` of the group. -/
theorem SecretKey.publicKey_toGroup (sk : SecretKey) :
    (Jacobian.ofPoint sk.publicKey.point).toGroup = sk.scalar • generatorPoint := by
  obtain ⟨q, read⟩ := generator_smul_isSome sk.natCast_scalar_ne_zero
  rw [SecretKey.publicKey_point read]
  rw [generator_smul_eq] at read
  exact (Point.ofGroup_eq_some read).2

/-- The scalar `k⁻¹ (m + r d)` of a signature, read in the scalar field. -/
theorem natCast_signatureScalar {k : Nat} (kNonzero : (k : ZMod groupOrder) ≠ 0) (m r d : Nat) :
    ((invMod k groupOrder * ((m + r * d) % groupOrder) % groupOrder : Nat) : ZMod groupOrder) =
      (k : ZMod groupOrder)⁻¹ * (m + r * d) := by
  rw [natCast_mulMod, ZMod.natCast_mod, natCast_invMod kNonzero, Nat.cast_add, Nat.cast_mul]

/-- What a signature with nonce `k` is made of: `r`, the abscissa of `k · G` modulo the group
order, and `s = k⁻¹ (m + r d)` in its lower form, neither of them zero. -/
theorem signWithNonce_eq_some {sk : SecretKey} {m k : Nat} {sig : Signature}
    (signed : signWithNonce sk m k = some sig) :
    ∃ R s, generator.smul k = some R ∧ sig.r = R.x % groupOrder ∧ sig.r ≠ 0 ∧
      s = invMod k groupOrder * ((m + R.x % groupOrder * sk.scalar) % groupOrder) % groupOrder ∧
      s ≠ 0 ∧ sig.s = if s > groupOrder / 2 then groupOrder - s else s := by
  unfold signWithNonce at signed
  split at signed
  · cases signed
  rename_i R read
  dsimp only at signed
  by_cases degenerate : R.x % groupOrder = 0 ∨
      invMod k groupOrder * ((m + R.x % groupOrder * sk.scalar) % groupOrder) % groupOrder = 0
  · rw [if_pos degenerate] at signed
    cases signed
  rw [if_neg degenerate] at signed
  obtain rfl := Option.some.inj signed
  obtain ⟨rNonzero, sNonzero⟩ := not_or.mp degenerate
  exact ⟨R, _, read, rfl, rNonzero, rfl, sNonzero, rfl⟩

/-- Verification accepts an in-range signature whose combination `(m / s) · G + (r / s) · Q` is a
point with abscissa `r` modulo the group order. -/
theorem verify_of_abscissa {pk : PublicKey} {msg : Bytes} {sig : Signature} {R : Point}
    (rRange : 0 < sig.r ∧ sig.r < groupOrder) (sRange : 0 < sig.s ∧ sig.s ≤ groupOrder / 2)
    (combination : (Point.ofGroup
      ((messageScalar msg * invMod sig.s groupOrder % groupOrder) • generatorPoint +
        (sig.r * invMod sig.s groupOrder % groupOrder) • (Jacobian.ofPoint pk.point).toGroup)).map
      Point.x = some R.x)
    (abscissa : R.x % groupOrder = sig.r) : verify pk msg sig = true := by
  obtain ⟨R', found, sameX⟩ := Option.map_eq_some_iff.mp combination
  unfold verify
  rw [if_neg (by omega)]
  dsimp only
  rw [linearCombination_eq_ofGroup pk.onCurve, ← generatorPoint, found]
  show (R'.x % groupOrder == sig.r) = true
  rw [sameX, abscissa]
  exact beq_self_eq_true _

/-- The scalars of verification combine to the nonce: from `k s = m + r d`, `m / s + (r / s) d = k`. -/
theorem verification_scalar {k s m r d : ZMod groupOrder} (sNonzero : s ≠ 0)
    (signing : k * s = m + r * d) : m * s⁻¹ + r * s⁻¹ * d = k := by
  field_simp
  linear_combination -signing

/-- The lower of `s` and `n - s` is `s` or its negation modulo the group order. -/
theorem natCast_lowered {s : Nat} (lt : s < groupOrder) :
    ((if s > groupOrder / 2 then groupOrder - s else s : Nat) : ZMod groupOrder) = s ∨
      ((if s > groupOrder / 2 then groupOrder - s else s : Nat) : ZMod groupOrder) = -s := by
  split
  · right
    rw [Nat.cast_sub lt.le, ZMod.natCast_self, zero_sub]
  · left
    rfl

/-- Verification recomputes `k · G` from a signature with nonce `k`, or `-(k · G)` when `s` was
lowered, and both have the abscissa that gave `r`. -/
theorem verify_of_signWithNonce (sk : SecretKey) (msg : Bytes) {k : Nat} (pos : 0 < k)
    (lt : k < groupOrder) {sig : Signature}
    (signed : signWithNonce sk (messageScalar msg) k = some sig) :
    verify sk.publicKey msg sig = true := by
  obtain ⟨R, s, read, rEq, rNonzero, sEq, sNonzero, lowered⟩ := signWithNonce_eq_some signed
  have kNonzero : (k : ZMod groupOrder) ≠ 0 := natCast_ne_zero_of_lt pos.ne' lt
  have odd : groupOrder % 2 = 1 := by decide
  have sLt : s < groupOrder := sEq ▸ mod_groupOrder_lt _
  have sCast : (s : ZMod groupOrder) ≠ 0 := natCast_ne_zero_of_lt sNonzero sLt
  -- the signing equation `k s = m + r d`, in the scalar field
  have signing : (k : ZMod groupOrder) * s = messageScalar msg + sig.r * sk.scalar := by
    rw [sEq, natCast_signatureScalar kNonzero, rEq]
    field_simp
  have sRange : 0 < sig.s ∧ sig.s ≤ groupOrder / 2 := by
    rw [lowered]
    split <;> omega
  have combined : ((messageScalar msg * invMod sig.s groupOrder % groupOrder +
      sig.r * invMod sig.s groupOrder % groupOrder * sk.scalar : Nat) : ZMod groupOrder) =
      messageScalar msg * (sig.s : ZMod groupOrder)⁻¹ +
        sig.r * (sig.s : ZMod groupOrder)⁻¹ * sk.scalar := by
    rw [Nat.cast_add, Nat.cast_mul, natCast_mulMod, natCast_mulMod,
      natCast_invMod (natCast_ne_zero_of_lt sRange.1.ne' (by omega))]
  refine verify_of_abscissa ⟨Nat.pos_of_ne_zero rNonzero, rEq ▸ mod_groupOrder_lt _⟩ sRange
    ?_ rEq.symm
  rw [SecretKey.publicKey_toGroup, smul_smul, ← add_nsmul]
  rcases natCast_lowered sLt with same | negated
  · rw [← lowered] at same
    rw [nsmul_generatorPoint_eq_iff.mpr (combined.trans (same ▸ verification_scalar sCast signing)),
      ← generator_smul_eq, read]
    rfl
  · rw [← lowered] at negated
    have flipped : ((messageScalar msg * invMod sig.s groupOrder % groupOrder +
        sig.r * invMod sig.s groupOrder % groupOrder * sk.scalar : Nat) : ZMod groupOrder) =
        ((groupOrder - k : Nat) : ZMod groupOrder) := by
      rw [combined, negated, Nat.cast_sub lt.le, ZMod.natCast_self, zero_sub]
      exact verification_scalar (neg_ne_zero.mpr sCast) (by linear_combination signing)
    rw [nsmul_generatorPoint_eq_iff.mpr flipped, ← neg_nsmul_generatorPoint lt.le,
      Point.ofGroup_neg, ← generator_smul_eq, read]
    rfl

theorem generator_smul_one : generator.smul 1 = some generator := by decide +kernel

theorem generator_smul_two : generator.smul 2 = some
    ⟨0xc6047f9441ed7d6d3045406e95c07cd85c778e4b8cef3ca7abac09b95c709ee5,
      0x1ae168fea63dc339a3c58419466ceaeef7f632653266d0e1236431a950cfe52a⟩ := by
  decide +kernel

/-- A nonce whose point has a nonzero abscissa `r` fails only when `m + r d` is zero. -/
theorem signWithNonce_eq_none_iff (sk : SecretKey) (m : Nat) {k : Nat} {R : Point} (pos : 0 < k)
    (lt : k < groupOrder) (read : generator.smul k = some R) (abscissa : R.x % groupOrder ≠ 0) :
    signWithNonce sk m k = none ↔
      (m : ZMod groupOrder) + ((R.x % groupOrder : Nat) : ZMod groupOrder) * sk.scalar = 0 := by
  have kNonzero : (k : ZMod groupOrder) ≠ 0 := natCast_ne_zero_of_lt pos.ne' lt
  have vanishes : invMod k groupOrder * ((m + R.x % groupOrder * sk.scalar) % groupOrder) %
      groupOrder = 0 ↔
      (m : ZMod groupOrder) + ((R.x % groupOrder : Nat) : ZMod groupOrder) * sk.scalar = 0 := by
    rw [← natCast_eq_natCast_iff_of_lt (mod_groupOrder_lt _) (by decide : 0 < groupOrder),
      Nat.cast_zero, natCast_signatureScalar kNonzero, mul_eq_zero, inv_eq_zero,
      or_iff_right kNonzero]
  rw [signWithNonce, read]
  dsimp only
  constructor
  · intro failed
    by_contra nonzero
    rw [if_neg (not_or.mpr ⟨abscissa, mt vanishes.mp nonzero⟩)] at failed
    cases failed
  · intro zero
    rw [if_pos (Or.inr (vanishes.mpr zero))]

/-- Two nonces whose points have distinct nonzero abscissas modulo the group order do not both
fail: that would make `(r₁ - r₂) d` zero, with neither factor zero. -/
theorem signWithNonce_of_distinct_abscissas (sk : SecretKey) (m : Nat) {k₁ k₂ : Nat}
    {R₁ R₂ : Point} (range₁ : 0 < k₁ ∧ k₁ < groupOrder) (range₂ : 0 < k₂ ∧ k₂ < groupOrder)
    (read₁ : generator.smul k₁ = some R₁) (read₂ : generator.smul k₂ = some R₂)
    (abscissa₁ : R₁.x % groupOrder ≠ 0) (abscissa₂ : R₂.x % groupOrder ≠ 0)
    (distinct : R₁.x % groupOrder ≠ R₂.x % groupOrder) :
    signWithNonce sk m k₁ ≠ none ∨ signWithNonce sk m k₂ ≠ none := by
  by_contra both
  obtain ⟨failed₁, failed₂⟩ := not_or.mp both
  have zero₁ := (signWithNonce_eq_none_iff sk m range₁.1 range₁.2 read₁ abscissa₁).mp
    (not_not.mp failed₁)
  have zero₂ := (signWithNonce_eq_none_iff sk m range₂.1 range₂.2 read₂ abscissa₂).mp
    (not_not.mp failed₂)
  have vanishes : (((R₁.x % groupOrder : Nat) : ZMod groupOrder) -
      ((R₂.x % groupOrder : Nat) : ZMod groupOrder)) * sk.scalar = 0 := by
    linear_combination zero₁ - zero₂
  apply distinct
  rw [← natCast_eq_natCast_iff_of_lt (mod_groupOrder_lt _) (mod_groupOrder_lt _)]
  exact sub_eq_zero.mp ((mul_eq_zero.mp vanishes).resolve_right sk.natCast_scalar_ne_zero)

/-- Of the fallback nonces `1` and `2`, one always signs. -/
theorem fallbackNonces_sign (sk : SecretKey) (m : Nat) :
    ∃ k ∈ fallbackNonces, signWithNonce sk m k ≠ none := by
  rcases signWithNonce_of_distinct_abscissas sk m (by decide) (by decide) generator_smul_one
      generator_smul_two (by decide) (by decide) (by decide) with one | two
  · exact ⟨1, by simp [fallbackNonces], one⟩
  · exact ⟨2, by simp [fallbackNonces], two⟩

theorem sign_eq_some (sk : SecretKey) (msg : Bytes) :
    ∃ sig k, sign sk msg = some sig ∧ 0 < k ∧ k < groupOrder ∧
      signWithNonce sk (messageScalar msg) k = some sig := by
  unfold sign
  dsimp only
  cases found : (((NonceGenerator.seed (sk.toBytes ++ Bytes.ofNatBE 32 (messageScalar msg))).outputs
      nonceAttempts).map Bytes.toNatBE ++ fallbackNonces).findSome? fun k =>
        if 0 < k ∧ k < groupOrder then signWithNonce sk (messageScalar msg) k else none with
  | none =>
    obtain ⟨k, member, signs⟩ := fallbackNonces_sign sk (messageScalar msg)
    have tried := List.findSome?_eq_none_iff.mp found k (List.mem_append_right _ member)
    have range : 0 < k ∧ k < groupOrder := by
      simp only [fallbackNonces, List.mem_cons, List.not_mem_nil, or_false] at member
      rcases member with rfl | rfl <;> decide
    rw [if_pos range] at tried
    exact absurd tried signs
  | some sig =>
    obtain ⟨k, -, chosen⟩ := List.exists_of_findSome?_eq_some found
    split_ifs at chosen with range
    exact ⟨sig, k, rfl, range.1, range.2, chosen⟩

/-- Every secret key signs every digest, with a signature that its public key verifies. -/
theorem verify_sign (sk : SecretKey) (msg : Bytes) :
    ∃ sig, sign sk msg = some sig ∧ verify sk.publicKey msg sig = true := by
  obtain ⟨sig, k, signed, pos, lt, chosen⟩ := sign_eq_some sk msg
  exact ⟨sig, signed, verify_of_signWithNonce sk msg pos lt chosen⟩

end SubmarineSwap.Secp256k1
