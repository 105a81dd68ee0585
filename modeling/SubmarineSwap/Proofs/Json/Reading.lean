import Mathlib
import SubmarineSwap.Json.Decode

namespace SubmarineSwap.JsonText

variable {α β : Type}

/-- `x` reads `bs` as `a` when `rest` follows: from any position of any input where exactly
`bs ++ rest` is left, it returns `a` and stops where `rest` is left. -/
def Reads (x : Reader α) (bs : Bytes) (a : α) (rest : Bytes) : Prop :=
  ∀ (input : Array UInt8) (i : Nat), input.toList.drop i = bs ++ rest →
    ∃ j, x input i = .ok a j ∧ input.toList.drop j = rest

section Runs

variable {input : Array UInt8} {i j : Nat} {a : α}

theorem run_bind_of_ok {x : Reader α} {f : α → Reader β} (ran : x input i = .ok a j) :
    (x >>= f) input i = f a input j := by
  simp only [bind, ReaderT.bind, EStateM.bind, ran]

theorem run_map_of_ok {x : Reader α} (f : α → β) (ran : x input i = .ok a j) :
    (f <$> x) input i = .ok (f a) j := by
  change EStateM.map f (x input) i = _
  simp only [EStateM.map, ran]

theorem attempt_of_ok {x : Reader α} (ran : x input i = .ok a j) :
    attempt x input i = .ok (.ok a) j := by
  change EStateM.tryCatch (fun s => EStateM.map Except.ok (x input) s) (fun e => pure (.error e)) i = _
  simp only [EStateM.tryCatch, EStateM.map, ran]

theorem getElem?_of_drop_eq_cons {c : UInt8} {rest : Bytes}
    (ahead : input.toList.drop i = c :: rest) : input[i]? = some c := by
  rw [← Array.getElem?_toList, ← List.head?_drop, ahead, List.head?_cons]

theorem getElem?_of_drop_eq_nil (ahead : input.toList.drop i = []) : input[i]? = none := by
  rw [← Array.getElem?_toList, ← List.head?_drop, ahead, List.head?_nil]

theorem length_le_size_of_drop_eq {bs : Bytes} (ahead : input.toList.drop i = bs) :
    bs.length ≤ input.size := by
  have counted := congrArg List.length ahead
  rw [List.length_drop, Array.length_toList] at counted
  omega

end Runs

namespace Reads

variable {x : Reader α} {bs cs ds rest : Bytes} {a : α} {b : β}

theorem bind {f : α → Reader β} (first : Reads x bs a (cs ++ rest)) (second : Reads (f a) cs b rest)
    (split : bs ++ cs = ds) : Reads (x >>= f) ds b rest := by
  intro input i ahead
  obtain ⟨j, ran, left⟩ := first input i (by rw [ahead, ← split, List.append_assoc])
  obtain ⟨k, ran', left'⟩ := second input j left
  exact ⟨k, by rw [run_bind_of_ok ran, ran'], left'⟩

theorem bind_nil {f : α → Reader β} (first : Reads x [] a (cs ++ rest))
    (second : Reads (f a) cs b rest) : Reads (x >>= f) cs b rest :=
  bind first second (List.nil_append cs)

theorem bind_end {f : α → Reader β} (first : Reads x bs a rest) (second : Reads (f a) [] b rest) :
    Reads (x >>= f) bs b rest :=
  bind (by rwa [List.nil_append]) second (List.append_nil bs)

theorem pure (a : α) (rest : Bytes) : Reads (Pure.pure a) [] a rest :=
  fun _ i ahead => ⟨i, rfl, ahead⟩

theorem map (f : α → β) (read : Reads x bs a rest) : Reads (f <$> x) bs (f a) rest := by
  intro input i ahead
  obtain ⟨j, ran, left⟩ := read input i ahead
  exact ⟨j, run_map_of_ok f ran, left⟩

theorem placed (read : Reads x bs a rest) : Reads (JsonText.placed x) bs a rest := by
  intro input i ahead
  obtain ⟨j, ran, left⟩ := read input i ahead
  refine ⟨j, ?_, left⟩
  unfold JsonText.placed
  rw [run_bind_of_ok (attempt_of_ok ran)]
  rfl

theorem withEnd {finish : Reader Unit} (body : Reads x bs a (cs ++ rest))
    (closing : Reads finish cs () rest) (split : bs ++ cs = ds) :
    Reads (JsonText.withEnd x finish) ds a rest := by
  intro input i ahead
  obtain ⟨j, ran, left⟩ := body input i (by rw [ahead, ← split, List.append_assoc])
  obtain ⟨k, closed, left'⟩ := closing input j left
  refine ⟨k, ?_, left'⟩
  unfold JsonText.withEnd
  rw [run_bind_of_ok (attempt_of_ok ran)]
  dsimp only
  rw [run_bind_of_ok closed]
  rfl

theorem size_bind {f : Nat → Reader α}
    (each : ∀ n, bs.length + rest.length ≤ n → Reads (f n) bs a rest) :
    Reads (size >>= f) bs a rest := by
  intro input i ahead
  have fits : bs.length + rest.length ≤ input.size := by
    simpa using length_le_size_of_drop_eq ahead
  obtain ⟨j, ran, left⟩ := each _ fits input i ahead
  exact ⟨j, by rw [run_bind_of_ok (show size input i = .ok input.size i from rfl), ran], left⟩

theorem size_loop {f : Nat → Reader α} {c : UInt8}
    (loop : ∀ n, bs.length < n → Reads (f n) bs a (c :: rest)) :
    Reads (size >>= f) bs a (c :: rest) :=
  size_bind fun n enough => loop n (by simp only [List.length_cons] at enough; omega)

theorem peek (c : UInt8) (next : rest.head? = some c) : Reads JsonText.peek [] (some c) rest := by
  intro input i ahead
  obtain ⟨more, rfl⟩ : ∃ more, rest = c :: more := by
    cases rest with
    | nil => cases next
    | cons d more => exact ⟨more, by cases next; rfl⟩
  exact ⟨i, by rw [show JsonText.peek _ i = .ok _ i from rfl, getElem?_of_drop_eq_cons ahead], ahead⟩

theorem peek_end (last : rest = []) : Reads JsonText.peek [] none rest := by
  subst last
  exact fun _ i ahead => ⟨i, by rw [show JsonText.peek _ i = .ok _ i from rfl,
    getElem?_of_drop_eq_nil ahead], ahead⟩

theorem eat (c : UInt8) (rest : Bytes) : Reads JsonText.eat [c] () rest := by
  intro input i ahead
  refine ⟨i + 1, rfl, ?_⟩
  rw [← List.tail_drop, ahead]
  rfl

theorem nextOrEof (c : UInt8) (rest : Bytes) : Reads JsonText.nextOrEof [c] c rest := by
  unfold JsonText.nextOrEof
  exact bind_nil (peek c rfl) (bind (eat c _) (pure c rest) rfl)

end Reads

section Blanks

variable {c : UInt8} {rest : Bytes}

theorem Reads.skipBlanks_go (next : rest.head? = some c) (solid : isBlank c = false) (fuel : Nat) :
    Reads (skipBlanks.go fuel) [] (some c) rest := by
  cases fuel with
  | zero => exact Reads.peek c next
  | succ fuel =>
    unfold skipBlanks.go
    refine Reads.bind_nil (Reads.peek c next) ?_
    simpa only [solid, Bool.false_eq_true, ↓reduceIte] using Reads.pure (some c) rest

theorem Reads.skipBlanks (c : UInt8) (next : rest.head? = some c) (solid : isBlank c = false) :
    Reads JsonText.skipBlanks [] (some c) rest :=
  Reads.size_bind fun fuel _ => Reads.skipBlanks_go next solid fuel

theorem Reads.skipBlanks_end (last : rest = []) : Reads JsonText.skipBlanks [] none rest := by
  refine Reads.size_bind fun fuel _ => ?_
  cases fuel with
  | zero => exact Reads.peek_end last
  | succ fuel =>
    unfold skipBlanks.go
    exact Reads.bind_nil (Reads.peek_end last) (Reads.pure none rest)

end Blanks

section Punctuation

variable {rest : Bytes}

theorem Reads.expectIdent (word : List UInt8) : Reads (JsonText.expectIdent word) word () rest := by
  induction word with
  | nil => exact Reads.pure () rest
  | cons c word ih =>
    unfold JsonText.expectIdent
    refine Reads.bind_nil (Reads.peek c rfl) (Reads.bind (Reads.eat c _) ?_ rfl)
    simpa only [beq_self_eq_true, ↓reduceIte] using ih

theorem Reads.colon : Reads JsonText.colon [0x3a] () rest := by
  unfold JsonText.colon
  exact Reads.bind_nil (Reads.skipBlanks 0x3a rfl (by decide)) (Reads.eat 0x3a rest)

theorem Reads.endObject : Reads JsonText.endObject [0x7d] () rest := by
  unfold JsonText.endObject
  exact Reads.bind_nil (Reads.skipBlanks 0x7d rfl (by decide)) (Reads.eat 0x7d rest)

theorem Reads.endOfInput (last : rest = []) : Reads JsonText.endOfInput [] () rest := by
  unfold JsonText.endOfInput
  exact Reads.bind_nil (Reads.skipBlanks_end last) (Reads.pure () rest)

end Punctuation

theorem Reads.readCompound_object {depth : Nat} {expected : String} {ofSeq ofMap : Nat → Reader α}
    {bs rest : Bytes} {a : α} (deep : 2 ≤ depth) (entries : Reads (ofMap (depth - 1)) bs a (0x7d :: rest)) :
    Reads (readCompound depth expected ofSeq ofMap) (0x7b :: bs ++ [0x7d]) a rest := by
  unfold readCompound
  apply Reads.placed
  refine Reads.bind_nil (Reads.skipBlanks 0x7b rfl (by decide)) ?_
  have shallow : ¬depth ≤ 1 := by omega
  simp only [shallow, if_false]
  exact Reads.bind (Reads.eat 0x7b _) (Reads.withEnd entries Reads.endObject rfl) rfl

theorem decodeBytes_of_reads {x : Reader α} {bs : Bytes} {a : α} (read : Reads x bs a []) :
    decodeBytes x bs = .ok a := by
  have whole : Reads (readAll x) bs a [] := by
    unfold readAll
    exact Reads.bind read (Reads.bind_nil (Reads.endOfInput rfl) (Reads.pure a [])) (List.append_nil bs)
  obtain ⟨j, ran, -⟩ := whole bs.toArray 0 (by simp)
  simp only [decodeBytes, runReader, ReaderT.run, EStateM.run, ran]

end SubmarineSwap.JsonText
