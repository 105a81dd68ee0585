import Mathlib
import SubmarineSwap.Swap.Derive
import SubmarineSwap.Proofs.Secp256k1.Points
import SubmarineSwap.Proofs.Scan

namespace SubmarineSwap

open Secp256k1

namespace Secp256k1

theorem curveRhs_ne_zero (x : Nat) : curveRhs x ≠ 0 := by
  intro zero
  have cube : (x : ZMod fieldPrime) ^ 3 = -7 := by
    have rhs := natCast_curveRhs x
    rw [zero, Nat.cast_zero] at rhs
    linear_combination -rhs
  have seven : ((fieldPrime - 7 : Nat) : ZMod fieldPrime) = -7 := by
    rw [Nat.cast_sub (by decide), ZMod.natCast_self, zero_sub]
    rfl
  have nonzero : (x : ZMod fieldPrime) ≠ 0 := by
    rintro vanishes
    rw [vanishes, zero_pow (by decide), zero_eq_neg] at cube
    exact natCast_ne_zero_of_lt (a := 7) (by decide) (by decide) cube
  have exponent : 3 * ((fieldPrime - 1) / 3) = fieldPrime - 1 := by norm_num [fieldPrime]
  have power : ((fieldPrime - 7 : Nat) : ZMod fieldPrime) ^ ((fieldPrime - 1) / 3) = 1 := by
    rw [seven, ← cube, ← pow_mul, exponent, ZMod.pow_card_sub_one_eq_one nonzero]
  have computed : powMod (fieldPrime - 7) ((fieldPrime - 1) / 3) fieldPrime ≠ 1 := by decide +kernel
  exact computed ((natCast_pow_eq_one_iff fieldPrime_prime.two_le _ _).mp power)

theorem liftX_isSome_parity (x : Nat) (odd odd' : Bool) :
    (liftX x odd).isSome = (liftX x odd').isSome := by
  simp only [liftX]
  split_ifs <;> rfl

theorem liftX_root_sq {x : Nat} {odd : Bool} {q : Point} (lifted : liftX x odd = some q) :
    powMod (curveRhs x) ((fieldPrime + 1) / 4) fieldPrime *
      powMod (curveRhs x) ((fieldPrime + 1) / 4) fieldPrime % fieldPrime = curveRhs x := by
  simp only [liftX] at lifted
  split at lifted
  · cases lifted
  · rename_i checked
    simpa using checked

theorem liftX_onCurve {x : Nat} {odd : Bool} {q : Point} (below : x < fieldPrime)
    (lifted : liftX x odd = some q) : q.onCurve = true ∧ q.x = x := by
  have checked := liftX_root_sq lifted
  have shape := liftX_eq_some lifted
  set root := powMod (curveRhs x) ((fieldPrime + 1) / 4) fieldPrime
  have rootLt : root < fieldPrime := powMod_lt _ _ fieldPrime_pos
  have squared : (root : ZMod fieldPrime) ^ 2 = (x : ZMod fieldPrime) ^ 3 + 7 := by
    rw [← natCast_curveRhs, ← checked, ZMod.natCast_mod, Nat.cast_mul, sq]
  subst shape
  refine ⟨(Point.onCurve_iff _).mpr ⟨below, ?_, ?_⟩, rfl⟩
  · split
    · exact rootLt
    · exact mod_fieldPrime_lt _
  · -- the ordinate is the root or its negation, and both square to `x³ + 7`
    split
    · exact squared
    · rw [ZMod.natCast_mod, Nat.cast_sub rootLt.le, ZMod.natCast_self, zero_sub, neg_sq, squared]

theorem liftX_isSome_iff {x : Nat} (odd : Bool) (below : x < fieldPrime) :
    (liftX x odd).isSome ↔ ∃ y, (Point.mk x y).onCurve = true := by
  constructor
  · intro lifts
    obtain ⟨q, lifted⟩ := Option.isSome_iff_exists.mp lifts
    obtain ⟨on, abscissa⟩ := liftX_onCurve below lifted
    exact ⟨q.y, by rw [← abscissa]; exact on⟩
  · rintro ⟨y, on⟩
    rw [liftX_isSome_parity x odd (y % 2 == 1), liftX_of_onCurve on]
    rfl

theorem liftX_parity {x : Nat} {odd : Bool} {q : Point} (lifted : liftX x odd = some q) :
    (q.y % 2 == 1) = odd := by
  have checked := liftX_root_sq lifted
  have shape := liftX_eq_some lifted
  set root := powMod (curveRhs x) ((fieldPrime + 1) / 4) fieldPrime
  have rootLt : root < fieldPrime := powMod_lt _ _ fieldPrime_pos
  have rootPos : root ≠ 0 := by
    intro zero
    rw [zero] at checked
    exact curveRhs_ne_zero x (by simpa using checked.symm)
  have primeOdd := fieldPrime_odd
  subst shape
  simp only
  split
  · rename_i kept
    simpa using kept
  · rename_i flipped
    rw [Nat.mod_eq_of_lt (show fieldPrime - root < fieldPrime by omega)]
    cases odd <;> simp only [beq_iff_eq, beq_eq_false_iff_ne] at flipped ⊢ <;> omega

end Secp256k1

/-- A compressed encoding of a point of the curve: the prefix `02` or `03`, then an abscissa at
which the curve has a point. The length is checked apart. -/
def EncodesPoint (bs : Bytes) : Prop :=
  ∃ pre x, bs = pre :: x ∧ (pre = 2 ∨ pre = 3) ∧ ∃ y, (Point.mk (Bytes.toNatBE x) y).onCurve = true

theorem encodesPoint_cons_iff (pre : UInt8) (x : Bytes) :
    EncodesPoint (pre :: x) ↔ (pre = 2 ∨ pre = 3) ∧ Bytes.toNatBE x < fieldPrime ∧
      (liftX (Bytes.toNatBE x) false).isSome = true := by
  constructor
  · rintro ⟨pre', x', same, compressed, y, on⟩
    obtain ⟨rfl, rfl⟩ := List.cons.inj same
    have below : Bytes.toNatBE x < fieldPrime := ((Point.onCurve_iff _).mp on).1
    exact ⟨compressed, below, (liftX_isSome_iff _ below).mpr ⟨y, on⟩⟩
  · rintro ⟨compressed, below, lifts⟩
    exact ⟨pre, x, rfl, compressed, (liftX_isSome_iff _ below).mp lifts⟩

instance : DecidablePred EncodesPoint := fun bs =>
  match bs with
  | [] => isFalse (by rintro ⟨_, _, impossible, -⟩; cases impossible)
  | pre :: x => decidable_of_iff _ (encodesPoint_cons_iff pre x).symm

namespace Secp256k1

theorem PublicKey.isSome_bind_liftX {x : Nat} {odd : Bool} (below : x < fieldPrime) :
    ((liftX x odd).bind PublicKey.ofPoint?).isSome = (liftX x odd).isSome := by
  cases lifted : liftX x odd with
  | none => rfl
  | some q => simp [PublicKey.ofPoint?, (liftX_onCurve below lifted).1]

theorem PublicKey.parse?_compressed {pre : UInt8} {x : Bytes} (sized : x.length = 32) :
    PublicKey.parse? (pre :: x) = if (pre = 2 ∨ pre = 3) ∧ Bytes.toNatBE x < fieldPrime then
      (liftX (Bytes.toNatBE x) (decide (pre = 3))).bind PublicKey.ofPoint? else none := by
  by_cases compressed : pre = 2 ∨ pre = 3
  · by_cases below : Bytes.toNatBE x < fieldPrime <;> simp [PublicKey.parse?, sized, compressed, below]
  · simp [PublicKey.parse?, sized, compressed]

theorem PublicKey.parse?_isSome_iff {bs : Bytes} (sized : bs.length = 33) :
    (PublicKey.parse? bs).isSome ↔ EncodesPoint bs := by
  obtain ⟨pre, x, rfl⟩ : ∃ pre x, bs = pre :: x := List.exists_cons_of_length_eq_add_one sized
  have length : x.length = 32 := by simpa using sized
  rw [PublicKey.parse?_compressed length, encodesPoint_cons_iff]
  split_ifs with valid
  · simp [valid.1, valid.2, PublicKey.isSome_bind_liftX valid.2,
      liftX_isSome_parity _ (decide (pre = 3)) false]
  · simp only [Option.isSome_none, Bool.false_eq_true, false_iff]
    rintro ⟨compressed, below, -⟩
    exact valid ⟨compressed, below⟩

theorem PublicKey.serialize_of_parse? {bs : Bytes} {pk : PublicKey} (sized : bs.length = 33)
    (read : PublicKey.parse? bs = some pk) : pk.serialize = bs := by
  obtain ⟨pre, x, rfl⟩ : ∃ pre x, bs = pre :: x := List.exists_cons_of_length_eq_add_one sized
  have length : x.length = 32 := by simpa using sized
  rw [PublicKey.parse?_compressed length] at read
  split_ifs at read with valid
  obtain ⟨q, lifted, made⟩ := Option.bind_eq_some_iff.mp read
  obtain rfl := PublicKey.ofPoint?_eq_some_iff.mp made
  obtain ⟨-, abscissa⟩ := liftX_onCurve valid.2 lifted
  have parity := liftX_parity lifted
  have bytes : Bytes.ofNatBE 32 (Bytes.toNatBE x) = x := by
    refine Bytes.eq_of_toNatBE_eq (by rw [Bytes.ofNatBE_length, length]) ?_
    rw [Bytes.toNatBE_ofNatBE, Nat.mod_eq_of_lt (length ▸ Bytes.toNatBE_lt x)]
  simp only [PublicKey.serialize, abscissa, bytes, List.cons.injEq, and_true]
  rcases valid.1 with rfl | rfl <;>
    rcases Nat.mod_two_eq_zero_or_one pk.point.y with even | odd <;> simp_all

end Secp256k1

inductive Party where
  | client
  | service
  deriving DecidableEq

def Party.note : Party → String
  | .client => "invalid client public key: "
  | .service => "invalid service public key: "

structure RawTerms where
  hash : Bytes
  clientKey : Bytes
  serviceKey : Bytes
  lockHeight : Nat
  currentHeight : Nat
  creationHeight : Nat

def RawTerms.key (t : RawTerms) : Party → Bytes
  | .client => t.clientKey
  | .service => t.serviceKey

inductive TermsCheck where
  | hashLength
  | keyLength (party : Party)
  | keyPoint (party : Party)
  | lockAfterCurrent
  | lockIsHeight
  | lockAfterCreation
  deriving DecidableEq

namespace TermsCheck

def Passes (t : RawTerms) : TermsCheck → Prop
  | hashLength => t.hash.length = 32
  | keyLength party => (t.key party).length = 33
  | keyPoint party => EncodesPoint (t.key party)
  | lockAfterCurrent => t.currentHeight < t.lockHeight
  | lockIsHeight => t.lockHeight < 500000000
  | lockAfterCreation => t.creationHeight < t.lockHeight

instance (t : RawTerms) : DecidablePred (Passes t) := fun k =>
  match k with
  | hashLength => inferInstanceAs (Decidable (t.hash.length = 32))
  | keyLength party => inferInstanceAs (Decidable ((t.key party).length = 33))
  | keyPoint party => inferInstanceAs (Decidable (EncodesPoint (t.key party)))
  | lockAfterCurrent => inferInstanceAs (Decidable (t.currentHeight < t.lockHeight))
  | lockIsHeight => inferInstanceAs (Decidable (t.lockHeight < 500000000))
  | lockAfterCreation => inferInstanceAs (Decidable (t.creationHeight < t.lockHeight))

def refusal (t : RawTerms) : TermsCheck → Error
  | hashLength => .invalidParameters s!"payment hash must be 32 bytes, got {t.hash.length}"
  | keyLength party => .invalidParameters
    (party.note ++ s!"invalid parameters: public key must be 33 bytes, got {(t.key party).length}")
  | keyPoint party => .invalidParameters (party.note ++ "invalid parameters: malformed public key")
  | lockAfterCurrent =>
    .invalidParameters s!"lock height {t.lockHeight} is not after current height {t.currentHeight}"
  | lockIsHeight => .invalidParameters s!"lock height {t.lockHeight} is not a valid block height"
  | lockAfterCreation =>
    .invalidParameters s!"lock height {t.lockHeight} is not after creation height {t.creationHeight}"

def termsOrder : List TermsCheck :=
  [hashLength, keyLength .client, keyPoint .client, keyLength .service, keyPoint .service,
    lockAfterCurrent, lockIsHeight]

def recordOrder : List TermsCheck := termsOrder ++ [lockAfterCreation]

end TermsCheck

def firstFailing (t : RawTerms) (ks : List TermsCheck) : Option TermsCheck :=
  ks.find? fun k => !decide (k.Passes t)

/-- A computation makes the checks `ks` in order: it fails exactly when one of them fails, and
then with the refusal of the first that does. -/
def MakesChecks {α : Type} (t : RawTerms) (ks : List TermsCheck) (x : Except Error α) : Prop :=
  ∀ e, x = .error e ↔ ∃ k, firstFailing t ks = some k ∧ e = k.refusal t

section MakesChecks

variable {α β : Type} {t : RawTerms} {k : TermsCheck} {ks ks' : List TermsCheck}

theorem firstFailing_eq_none_iff : firstFailing t ks = none ↔ ∀ k ∈ ks, k.Passes t := by
  simp [firstFailing, List.find?_eq_none]

theorem firstFailing_append :
    firstFailing t (ks ++ ks') = (firstFailing t ks).or (firstFailing t ks') := by
  simp [firstFailing, List.find?_append]

theorem MakesChecks.nil (a : α) : MakesChecks t [] (.ok a) := by
  intro e
  simp [firstFailing]

theorem MakesChecks.guard {x : Except Error α} (refused : ¬k.Passes t → x = .error (k.refusal t))
    (passed : k.Passes t → MakesChecks t ks x) : MakesChecks t (k :: ks) x := by
  intro e
  by_cases pass : k.Passes t
  · simpa [firstFailing, List.find?_cons, pass] using passed pass e
  · simp [firstFailing, pass, refused pass, eq_comm]

theorem MakesChecks.bind {x : Except Error α} {f : α → Except Error β} (first : MakesChecks t ks x)
    (rest : ∀ a, x = .ok a → MakesChecks t ks' (f a)) : MakesChecks t (ks ++ ks') (x >>= f) := by
  intro e
  rw [firstFailing_append]
  cases x with
  | error e' =>
    obtain ⟨k, found, rfl⟩ := (first e').mp rfl
    have refused : (Except.error (k.refusal t) >>= f) = .error (k.refusal t) := rfl
    simp [found, refused, eq_comm]
  | ok a =>
    have passed : firstFailing t ks = none := by
      cases found : firstFailing t ks with
      | none => rfl
      | some k => simpa using (first (k.refusal t)).mpr ⟨k, found, rfl⟩
    have continued : (Except.ok a >>= f) = f a := rfl
    simpa [passed, continued] using rest a rfl e

theorem MakesChecks.ok_iff {x : Except Error α} (checks : MakesChecks t ks x) :
    (∃ a, x = .ok a) ↔ ∀ k ∈ ks, k.Passes t := by
  rw [← firstFailing_eq_none_iff]
  cases x with
  | error e =>
    obtain ⟨k, found, -⟩ := (checks e).mp rfl
    simp [found]
  | ok a =>
    cases found : firstFailing t ks with
    | none => simp
    | some k => simpa using (checks (k.refusal t)).mpr ⟨k, found, rfl⟩

end MakesChecks

section Stages

variable (t : RawTerms)

theorem parsePaymentHash_makesChecks : MakesChecks t [.hashLength] (parsePaymentHash t.hash) :=
  .guard (fun short => by simp_all [parsePaymentHash, TermsCheck.Passes, TermsCheck.refusal,
      preimageSize]) fun long => by
    simp only [TermsCheck.Passes] at long
    simpa [parsePaymentHash, preimageSize, long] using
      MakesChecks.nil (t := t) (⟨t.hash, long⟩ : PaymentHash)

theorem parsePublicKey_makesChecks (party : Party) :
    MakesChecks t [.keyLength party, .keyPoint party]
      ((parsePublicKey (t.key party)).mapError fun e => .invalidParameters (party.note ++ e.message)) := by
  refine .guard (fun short => ?_) fun sized => .guard (fun malformed => ?_) fun encodes => ?_
  · simp only [TermsCheck.Passes] at short
    simp only [parsePublicKey, compressedKeySize, short, ne_eq, not_false_eq_true, if_true,
      Except.mapError, TermsCheck.refusal, Error.invalidParameters, Error.message, ErrorKind.text,
      Except.error.injEq, Error.raise.injEq, true_and, String.append_assoc]
    rfl
  · simp only [TermsCheck.Passes] at sized malformed
    have missing : PublicKey.parse? (t.key party) = none := by
      rw [← Option.not_isSome_iff_eq_none, PublicKey.parse?_isSome_iff sized]
      exact malformed
    simp [parsePublicKey, compressedKeySize, sized, missing, Except.mapError, TermsCheck.refusal,
      Error.invalidParameters, Error.message, ErrorKind.text]
  · simp only [TermsCheck.Passes] at sized encodes
    obtain ⟨pk, read⟩ := Option.isSome_iff_exists.mp ((PublicKey.parse?_isSome_iff sized).mpr encodes)
    simpa [parsePublicKey, compressedKeySize, sized, read, Except.mapError] using MakesChecks.nil (t := t) pk

theorem make_makesChecks (hash : PaymentHash) (clientKey serviceKey : PublicKey) :
    MakesChecks t [.lockAfterCurrent, .lockIsHeight]
      (SwapParams.make hash clientKey serviceKey t.lockHeight t.currentHeight) := by
  refine .guard (fun late => ?_) fun after => .guard (fun time => ?_) fun height => ?_
  · simp only [TermsCheck.Passes, Nat.not_lt] at late
    simp [SwapParams.make, late, TermsCheck.refusal]
  · simp only [TermsCheck.Passes, Nat.not_lt] at after time
    simp [SwapParams.make, Nat.not_le.mpr after, time, lockTimeThreshold, TermsCheck.refusal]
  · simp only [TermsCheck.Passes] at after height
    have notTime : ¬500000000 ≤ t.lockHeight := Nat.not_le.mpr height
    simpa [SwapParams.make, Nat.not_le.mpr after, lockTimeThreshold, notTime] using
      MakesChecks.nil (t := t) (SwapParams.mk hash clientKey serviceKey t.lockHeight)

theorem SwapRecord.make_makesChecks (params : SwapParams) (role : SwapRole) (n : Network)
    (lock : params.lockHeight = t.lockHeight) :
    MakesChecks t [.lockAfterCreation] (SwapRecord.make params t.creationHeight role n) := by
  refine .guard (fun early => ?_) fun after => ?_
  · simp only [TermsCheck.Passes, Nat.not_lt] at early
    simp [SwapRecord.make, lock, early, TermsCheck.refusal]
  · simp only [TermsCheck.Passes] at after
    simpa [SwapRecord.make, lock, Nat.not_le.mpr after] using
      MakesChecks.nil (t := t) (SwapRecord.mk params t.creationHeight role n)

theorem ofSlices_makesChecks :
    MakesChecks t TermsCheck.termsOrder
      (SwapParams.ofSlices t.hash t.clientKey t.serviceKey t.lockHeight t.currentHeight) :=
  (parsePaymentHash_makesChecks t).bind fun _ _ =>
    (parsePublicKey_makesChecks t .client).bind fun _ _ =>
      (parsePublicKey_makesChecks t .service).bind fun _ _ => make_makesChecks t _ _ _

end Stages

theorem parsePublicKey_serialize {bs : Bytes} {pk : PublicKey} (read : parsePublicKey bs = .ok pk) :
    pk.serialize = bs := by
  unfold parsePublicKey at read
  split at read
  · cases read
  · rename_i sized
    split at read
    · rename_i found
      cases read
      exact PublicKey.serialize_of_parse? (by simpa [compressedKeySize] using sized) found
    · cases read

theorem SwapParams.ofSlices_eq_ok {hash clientKey serviceKey : Bytes} {lockHeight currentHeight : Nat}
    {p : SwapParams} (made : SwapParams.ofSlices hash clientKey serviceKey lockHeight currentHeight = .ok p) :
    p.hash.bytes = hash ∧ p.clientKey.serialize = clientKey ∧ p.serviceKey.serialize = serviceKey ∧
      p.lockHeight = lockHeight := by
  unfold SwapParams.ofSlices at made
  cases hashRead : parsePaymentHash hash with
  | error e => rw [hashRead] at made; cases made
  | ok h =>
    cases clientRead : parsePublicKey clientKey with
    | error e => simp [hashRead, clientRead, Except.mapError, bind, Except.bind] at made
    | ok c =>
      cases serviceRead : parsePublicKey serviceKey with
      | error e => simp [hashRead, clientRead, serviceRead, Except.mapError, bind, Except.bind] at made
      | ok s =>
        simp only [hashRead, clientRead, serviceRead, Except.mapError, bind, Except.bind] at made
        obtain ⟨-, -, rfl⟩ := SwapParams.make_eq_ok.mp made
        have sameHash : h.bytes = hash := by
          unfold parsePaymentHash at hashRead
          split at hashRead <;> cases hashRead
          rfl
        exact ⟨sameHash, parsePublicKey_serialize clientRead, parsePublicKey_serialize serviceRead, rfl⟩

theorem record_makesChecks (t : RawTerms) (role : SwapRole) (n : Network) :
    MakesChecks t TermsCheck.recordOrder
      (SwapParams.ofSlices t.hash t.clientKey t.serviceKey t.lockHeight t.currentHeight >>=
        fun p => SwapRecord.make p t.creationHeight role n) :=
  (ofSlices_makesChecks t).bind fun _ made =>
    SwapRecord.make_makesChecks t _ role n (SwapParams.ofSlices_eq_ok made).2.2.2

theorem deriveSwap_makesChecks (t : RawTerms) (n : Network) :
    MakesChecks t TermsCheck.termsOrder
      (deriveSwap t.hash t.clientKey t.serviceKey t.lockHeight t.currentHeight n) := by
  have derived := (ofSlices_makesChecks t).bind
    (f := fun p => pure (p, SwapScript.ofParams p n)) fun p _ => MakesChecks.nil (t := t) _
  rwa [List.append_nil] at derived

/-- Raw terms are refused by the first check that fails, in the order of `TermsCheck.recordOrder`. -/
theorem swap_terms_checked_in_order (t : RawTerms) (role : SwapRole) (n : Network) :
    let read := SwapParams.ofSlices t.hash t.clientKey t.serviceKey t.lockHeight t.currentHeight
    let record := read >>= fun p => SwapRecord.make p t.creationHeight role n
    let derived := deriveSwap t.hash t.clientKey t.serviceKey t.lockHeight t.currentHeight n
    MakesChecks t TermsCheck.recordOrder record ∧
      ((∃ r, record = .ok r) ↔ t.hash.length = 32 ∧ t.clientKey.length = 33 ∧
        EncodesPoint t.clientKey ∧ t.serviceKey.length = 33 ∧ EncodesPoint t.serviceKey ∧
        t.currentHeight < t.lockHeight ∧ t.lockHeight < 500000000 ∧ t.creationHeight < t.lockHeight) ∧
      (∀ r, record = .ok r → r.hash = t.hash ∧ r.params.clientKey.serialize = t.clientKey ∧
        r.params.serviceKey.serialize = t.serviceKey ∧ r.lockHeight = t.lockHeight ∧
        r.creationHeight = t.creationHeight ∧ r.role = role ∧ r.network = n) ∧
      (∀ bs : Bytes, bs.length = 33 → ((PublicKey.parse? bs).isSome ↔ EncodesPoint bs)) ∧
      MakesChecks t TermsCheck.termsOrder derived ∧
      (∀ e, derived = .error e ↔ read = .error e) ∧ ((∃ d, derived = .ok d) ↔ ∃ p, read = .ok p) := by
  intro read record derived
  have checks := record_makesChecks t role n
  have derivation := deriveSwap_makesChecks t n
  refine ⟨checks, ?accepted, ?fields, fun bs sized => PublicKey.parse?_isSome_iff sized, derivation,
    fun e => (derivation e).trans (ofSlices_makesChecks t e).symm,
    derivation.ok_iff.trans (ofSlices_makesChecks t).ok_iff.symm⟩
  case accepted =>
    rw [checks.ok_iff]
    simp [TermsCheck.recordOrder, TermsCheck.termsOrder, TermsCheck.Passes, RawTerms.key]
  case fields =>
    intro r made
    cases readOk : read with
    | error e =>
      have refused : record = .error e := by simp only [record, readOk]; rfl
      rw [refused] at made
      cases made
    | ok p =>
      have recorded : SwapRecord.make p t.creationHeight role n = .ok r := by
        simp only [record, readOk] at made
        exact made
      obtain ⟨-, rfl⟩ := SwapRecord.make_eq_ok.mp recorded
      obtain ⟨hash, client, service, lock⟩ := SwapParams.ofSlices_eq_ok readOk
      exact ⟨hash, client, service, lock, rfl, rfl, rfl⟩

end SubmarineSwap
