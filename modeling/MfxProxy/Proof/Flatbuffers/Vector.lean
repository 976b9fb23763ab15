import MfxProxy.Proof.Flatbuffers.Table

/-!
# Vectors and strings

* `returns_StartVector`: the padding puts the length right before the entries.
* `returns_CreateVector`, `returns_CreateOffsetVector`, `returns_CreateString`: what is read
  is what was written.
-/

namespace MfxProxy.Flatbuffers

open Lib Prog FlatBufferBuilder

variable {ndebug : Bool} {b : FlatBufferBuilder} {len w : ℕ}

theorem aligned_four : Aligned 4 := Or.inr (Or.inr (Or.inl rfl))

theorem Aligned.pos (hw : Aligned w) : 0 < w ∧ w ≤ 8 := by rcases hw with rfl | rfl | rfl | rfl <;> omega

/-! ## Start and end -/

/-- **The entries of a vector will end where a length can stand.** -/
theorem returns_StartVector (hw : Aligned w) (hclean : b.Clean)
    (hroom : b.buf_.length + len * w + 16 < FLATBUFFERS_MAX_BUFFER_SIZE) :
    Returns (StartVector ndebug len w w) b fun _ t => ∃ k m, k ≤ 10 ∧ Aligned m ∧
      t = { b.add (List.replicate k 0) m with nested := true } ∧ (0 < len → (b.buf_.length + k + len * w) % 4 = 0) := by
  have hwidth := hw.pos
  unfold StartVector
  apply returns_NotNested_bind hclean
  apply returns_modify_bind
  by_cases hlen : len = 0
  · subst hlen
    rw [Nat.zero_mul, PreAlign_zero]
    exact returns_pure ⟨0, _, by omega, hclean.minalign, rfl, by omega⟩
  · have hn : 0 < len * w := Nat.mul_pos (by omega) hwidth.1
    generalize hneq : len * w = n at *
    refine (returns_PreAlign (b := { b with nested := true })
      (Q := fun _ u => ∃ k m, k < 4 ∧ (b.buf_.length + n + k) % 4 = 0 ∧ Aligned m ∧
        u = { b.add (List.replicate k 0) m with nested := true })
      aligned_four hn (by dsimp only; omega)
      fun k m hk => ⟨k, m, hk.lt, hk.aligned, hk.minalign hclean.minalign, rfl⟩).bind ?_
    rintro _ _ ⟨k, m, hk, halign, hm, rfl⟩
    have hlength : ({ b.add (List.replicate k 0) m with nested := true } : FlatBufferBuilder).buf_.length =
        k + b.buf_.length := by
      rw [add_buf, List.length_append, List.length_replicate]
    refine returns_PreAlign hw hn (by rw [hlength]; omega) fun k' m' hk' => ?_
    have halign' := hk'.aligned
    have hlt' := hk'.lt
    rw [hlength] at halign'
    refine ⟨k' + k, m', by omega, hk'.minalign hm, ?_, fun _ => ?_⟩
    · unfold add
      rw [← List.append_assoc, List.replicate_append_replicate]
    · rcases hw with rfl | rfl | rfl | rfl <;> omega

/-- The length, below the entries. -/
theorem returns_EndVector (hnested : b.nested = true) (hm : Aligned b.minalign_)
    (hroom : b.buf_.length + 8 < FLATBUFFERS_MAX_BUFFER_SIZE) :
    Returns (EndVector ndebug len) b fun loc t => ∃ k m, k < 4 ∧ (b.buf_.length % 4 = 0 → k = 0) ∧ Aligned m ∧
      loc = b.buf_.length + k + 4 ∧ t = { b.add (scalarBytes 4 len ++ List.replicate k 0) m with nested := false } := by
  unfold EndVector
  apply returns_get_bind
  apply returns_lift_bind (cassert_ok hnested)
  apply returns_modify_bind
  refine returns_PushElement aligned_four (by dsimp only; omega) fun k m hk => ?_
  have hlt := hk.lt
  have haligned : (b.buf_.length + 0 + k) % 4 = 0 := hk.aligned
  exact ⟨k, m, hlt, by omega, hk.minalign hm, rfl, rfl⟩

/-- A length with what follows it. -/
theorem at_vector (data rest : Bytes) (hlen : len < 256 ^ 4) :
    At (fun buf p => size buf p = .ok len ∧ Block.read buf (p + 4) data.length = some data)
      (scalarBytes 4 len ++ (data ++ rest)) (4 + (data ++ rest).length) := by
  have htotal : (scalarBytes 4 len ++ (data ++ rest)).length = 4 + (data ++ rest).length := by
    rw [List.length_append, length_scalarBytes]
  have hat := at_scalar (data ++ rest) (by omega) hlen
  rw [htotal] at hat
  refine ⟨hat.pos, hat.le, fun buf hbuf => ⟨hat.holds buf hbuf, ?_⟩⟩
  have hread := read_lowest ((List.suffix_append _ _).trans hbuf)
  have hle := hbuf.length_le
  have hplace : buf.length - (4 + (data ++ rest).length) + 4 = buf.length - (data ++ rest).length := by omega
  rw [hplace]
  exact hread

/-! ## Strings -/

theorem returns_CreateString {s : Bytes} (hclean : b.Clean)
    (hroom : b.buf_.length + s.length + 16 < FLATBUFFERS_MAX_BUFFER_SIZE) :
    Returns (CreateString ndebug s) b fun loc t =>
      Grows b t (s.length + 16) ∧ At (fun buf p => str buf p = .ok s) t.buf_ loc := by
  have hbound : FLATBUFFERS_MAX_BUFFER_SIZE < 256 ^ 4 := by decide
  unfold CreateString
  apply returns_NotNested_bind hclean
  refine (returns_PreAlign (Q := fun _ u => ∃ k m, k < 4 ∧ (b.buf_.length + (s.length + 1) + k) % 4 = 0 ∧ Aligned m ∧
    u = b.add (List.replicate k 0) m) aligned_four (Nat.succ_pos _) (by omega)
    fun k m hk => ⟨k, m, hk.lt, hk.aligned, hk.minalign hclean.minalign, rfl⟩).bind ?_
  rintro _ _ ⟨k, m, hk, halign, hm, rfl⟩
  have hlength : (b.add (List.replicate k 0) m).buf_.length = k + b.buf_.length := by
    rw [length_add, List.length_replicate]
  -- the terminator, then the characters
  refine (returns_push (Q := fun _ u => u = b.add (List.replicate 1 0 ++ List.replicate k 0) m)
    (by rw [hlength]; omega) (add_add _ _ _ _)).bind ?_
  rintro _ _ rfl
  have hlength' : (b.add (List.replicate 1 0 ++ List.replicate k 0) m).buf_.length = 1 + k + b.buf_.length := by
    rw [length_add, List.length_append, List.length_replicate, List.length_replicate]
  refine (returns_push (Q := fun _ u => u = b.add (s ++ (List.replicate 1 0 ++ List.replicate k 0)) m)
    (by rw [hlength']; omega) (add_add _ _ _ _)).bind ?_
  rintro _ _ rfl
  have hlength'' : (b.add (s ++ (List.replicate 1 0 ++ List.replicate k 0)) m).buf_.length =
      s.length + (1 + k) + b.buf_.length := by
    rw [length_add, List.length_append, List.length_append, List.length_replicate, List.length_replicate]
  refine (returns_PushElement_aligned (Q := fun _ u => ∃ m, Aligned m ∧
    u = b.add (scalarBytes 4 s.length ++ (s ++ (List.replicate 1 0 ++ List.replicate k 0))) m) aligned_four
    (by rw [hlength'']; omega) (by rw [hlength'']; omega)
    fun m' hm' => ⟨m', hm' hm, add_add _ _ _ _⟩).bind ?_
  rintro _ _ ⟨m', hm', rfl⟩
  apply returns_GetSize
  have hbuf : (b.add (scalarBytes 4 s.length ++ (s ++ (List.replicate 1 0 ++ List.replicate k 0))) m').buf_ =
      scalarBytes 4 s.length ++ (s ++ (List.replicate 1 0 ++ List.replicate k 0 ++ b.buf_)) := by
    rw [add_buf]
    simp only [List.append_assoc]
  have hat := at_vector s (List.replicate 1 0 ++ List.replicate k 0 ++ b.buf_)
    (show s.length < 256 ^ 4 by omega)
  have hsize : (b.add (scalarBytes 4 s.length ++ (s ++ (List.replicate 1 0 ++ List.replicate k 0))) m').buf_.length =
      4 + (s ++ (List.replicate 1 0 ++ List.replicate k 0 ++ b.buf_)).length := by
    rw [hbuf, List.length_append, length_scalarBytes]
  have hnew : (s ++ (List.replicate 1 0 ++ List.replicate k 0 ++ b.buf_)).length =
      s.length + (1 + k + b.buf_.length) := by
    simp only [List.length_append, List.length_replicate]
  refine ⟨⟨⟨_, rfl⟩, by omega, hclean.nested, hclean.field_locs, hclean.max_voffset, ?_, hm'⟩, ?_⟩
  · intro v hv
    have := hclean.vtables v hv
    omega
  · rw [hsize, hbuf]
    refine hat.mono fun buf p h => ?_
    unfold str
    rw [h.1, ok_bind, h.2]
    rfl

/-! ## Scalars -/

/-- A vector of scalars of `w` bytes. -/
def HasScalars (ndebug : Bool) (w : ℕ) (v : List ℕ) (buf : Bytes) (p : ℕ) : Prop :=
  size buf p = .ok v.length ∧ ∀ (i : ℕ) (_ : i < v.length), Get ndebug buf w p i = .ok v[i]

theorem length_scalars (v : List ℕ) : (v.flatMap (scalarBytes w)).length = v.length * w := by
  induction v with
  | nil => simp
  | cons e v ih =>
    rw [List.flatMap_cons, List.length_append, length_scalarBytes, ih, List.length_cons, Nat.succ_mul]
    omega

/-- The scalars one after the other. -/
theorem sub_scalars {v : List ℕ} {i : ℕ} (hi : i < v.length) :
    sub (v.flatMap (scalarBytes w)) (i * w) w = scalarBytes w v[i] := by
  induction v generalizing i with
  | nil => exact absurd hi (Nat.not_lt_zero _)
  | cons e v ih =>
    rw [List.flatMap_cons]
    cases i with
    | zero =>
      have hblock := sub_block [] (scalarBytes w e) (v.flatMap (scalarBytes w))
      rw [List.nil_append, List.length_nil, length_scalarBytes] at hblock
      rw [Nat.zero_mul, hblock]
      rfl
    | succ i =>
      have hplace : (i + 1) * w = (scalarBytes w e).length + i * w := by
        rw [length_scalarBytes, Nat.succ_mul]
        omega
      rw [hplace, sub_append_right, ih (Nat.lt_of_succ_lt_succ hi)]
      rfl

theorem HasScalars.of_read {v : List ℕ} {buf : Bytes} {p : ℕ} (hv : ∀ e ∈ v, e < 256 ^ w)
    (hsize : size buf p = .ok v.length)
    (hread : Block.read buf (p + 4) (v.flatMap (scalarBytes w)).length = some (v.flatMap (scalarBytes w))) :
    HasScalars ndebug w v buf p := by
  refine ⟨hsize, fun i hi => ?_⟩
  have hin : p + 4 + (v.flatMap (scalarBytes w)).length ≤ buf.length := by
    by_contra hnot
    rw [Block.read_eq_none.mpr (by omega)] at hread
    cases hread
  rw [Block.read_of_le hin] at hread
  have hdata : sub buf (p + 4) (v.flatMap (scalarBytes w)).length = v.flatMap (scalarBytes w) := Option.some.inj hread
  rw [length_scalars] at hdata hin
  have hentry : i * w + w ≤ v.length * w := by
    rw [← Nat.succ_mul]
    exact Nat.mul_le_mul_right w hi
  have hscalar : sub buf (p + 4 + i * w) w = scalarBytes w v[i] := by
    rw [← sub_scalars hi, ← hdata, sub_sub hentry]
  have hblock : Block.read buf (p + 4 + i * w) w = some (scalarBytes w v[i]) := by
    rw [← hscalar]
    exact Block.read_of_le (by omega)
  unfold Get
  rw [hsize, ok_bind, cassert_ok hi, ok_bind, ReadScalar_of_read hblock,
    scalarOf_scalarBytes_of_lt (hv _ (List.getElem_mem hi))]

theorem CreateVector_eq (v : List ℕ) : CreateVector ndebug w v = (do
    StartVector ndebug v.length w w
    push ndebug (v.flatMap (scalarBytes w))
    EndVector ndebug v.length) := by
  cases v <;> rfl

/-- **A vector of scalars is read as it was written.** -/
theorem returns_CreateVector {v : List ℕ} (hw : Aligned w) (hv : ∀ e ∈ v, e < 256 ^ w) (hclean : b.Clean)
    (hroom : b.buf_.length + v.length * w + 24 < FLATBUFFERS_MAX_BUFFER_SIZE) :
    Returns (CreateVector ndebug w v) b fun loc t =>
      Grows b t (v.length * w + 24) ∧ At (HasScalars ndebug w v) t.buf_ loc := by
  have hbound : FLATBUFFERS_MAX_BUFFER_SIZE < 256 ^ 4 := by decide
  have hlen : v.length < 256 ^ 4 := by
    have hle : v.length ≤ v.length * w := Nat.le_mul_of_pos_right _ hw.pos.1
    omega
  have hdata : (v.flatMap (scalarBytes w)).length = v.length * w := length_scalars v
  rw [CreateVector_eq]
  refine (returns_StartVector hw hclean (by omega)).bind ?_
  rintro _ _ ⟨k, m, hk, hm, rfl, halign⟩
  have hlength : (List.replicate k 0 ++ b.buf_).length = k + b.buf_.length := by
    rw [List.length_append, List.length_replicate]
  refine (returns_push (b := { b.add (List.replicate k 0) m with nested := true })
    (Q := fun _ t => t = { b.add (v.flatMap (scalarBytes w) ++ List.replicate k 0) m with nested := true })
    (by rw [add_buf, hlength]; omega) (by unfold add; rw [List.append_assoc])).bind ?_
  rintro _ _ rfl
  have hlength' : (v.flatMap (scalarBytes w) ++ List.replicate k 0 ++ b.buf_).length =
      v.length * w + (k + b.buf_.length) := by
    rw [List.append_assoc, List.length_append, hlength, hdata]
  refine (returns_EndVector rfl hm (by rw [add_buf, hlength']; omega)).mono ?_
  rintro loc t ⟨k', m', hk', hzero, hm', hloc, rfl⟩
  rw [add_buf, hlength'] at hzero hloc
  -- padding comes only after an empty vector
  have hswap : List.replicate k' 0 ++ v.flatMap (scalarBytes w) = v.flatMap (scalarBytes w) ++ List.replicate k' 0 := by
    by_cases hnil : v = []
    · subst hnil
      rw [List.flatMap_nil, List.nil_append, List.append_nil]
    · have hpos := List.length_pos_of_ne_nil hnil
      have := halign hpos
      rw [hzero (by omega), List.replicate_zero, List.nil_append, List.append_nil]
  have hat := at_vector (v.flatMap (scalarBytes w)) (List.replicate k' 0 ++ (List.replicate k 0 ++ b.buf_)) hlen
  have hbuf : scalarBytes 4 v.length ++ List.replicate k' 0 ++
        (v.flatMap (scalarBytes w) ++ List.replicate k 0 ++ b.buf_) =
      scalarBytes 4 v.length ++
        (v.flatMap (scalarBytes w) ++ (List.replicate k' 0 ++ (List.replicate k 0 ++ b.buf_))) := by
    calc scalarBytes 4 v.length ++ List.replicate k' 0 ++ (v.flatMap (scalarBytes w) ++ List.replicate k 0 ++ b.buf_)
        = scalarBytes 4 v.length ++ (List.replicate k' 0 ++ v.flatMap (scalarBytes w)) ++
          (List.replicate k 0 ++ b.buf_) := by
          simp only [List.append_assoc]
      _ = _ := by
          rw [hswap]
          simp only [List.append_assoc]
  have hrest : (v.flatMap (scalarBytes w) ++ (List.replicate k' 0 ++ (List.replicate k 0 ++ b.buf_))).length =
      v.length * w + (k' + (k + b.buf_.length)) := by
    rw [List.length_append, List.length_append, List.length_replicate, hdata, hlength]
  have hplace : loc =
      4 + (v.flatMap (scalarBytes w) ++ (List.replicate k' 0 ++ (List.replicate k 0 ++ b.buf_))).length := by
    omega
  unfold add
  dsimp only
  rw [hbuf, hplace]
  refine ⟨⟨?_, ?_, rfl, hclean.field_locs, hclean.max_voffset, ?_, hm'⟩, hat.mono fun buf p h => .of_read hv h.1 h.2⟩
  · exact ⟨scalarBytes 4 v.length ++ (v.flatMap (scalarBytes w) ++ (List.replicate k' 0 ++ List.replicate k 0)),
      by simp only [List.append_assoc]⟩
  · rw [List.length_append, length_scalarBytes, hrest]
    omega
  · intro u hu
    have := hclean.vtables u hu
    rw [List.length_append, length_scalarBytes, hrest]
    omega

/-! ## References -/

/-- A vector of references to what is at `offs`. -/
def HasReferences (ndebug : Bool) (offs : List ℕ) (buf : Bytes) (p : ℕ) : Prop :=
  size buf p = .ok offs.length ∧
    ∀ (i : ℕ) (_ : i < offs.length), GetIndirect ndebug buf p i = .ok (buf.length - offs[i])

/-- The entries written so far, below an aligned base: the last entry first. -/
structure Entries (base : FlatBufferBuilder) (done : List ℕ) (t : FlatBufferBuilder) : Prop where
  frame : ∃ new m, new.length = 4 * done.length ∧ Aligned m ∧ t = base.add new m
  entries : ∀ (i : ℕ) (_ : i < done.length), At (Refers done[i]) t.buf_ (base.buf_.length + 4 * (i + 1))

theorem Entries.length {base t : FlatBufferBuilder} {done : List ℕ} (h : Entries base done t) :
    t.buf_.length = 4 * done.length + base.buf_.length := by
  obtain ⟨new, m, hlen, -, rfl⟩ := h.frame
  rw [length_add, hlen]

/-- **One entry more**, without padding. -/
theorem Entries.add {base t : FlatBufferBuilder} {done : List ℕ} {off : ℕ} (h : Entries base done t)
    (hbase : base.buf_.length % 4 = 0) (hoff : 0 < off) (hle : off ≤ base.buf_.length)
    (hroom : t.buf_.length + 4 < FLATBUFFERS_MAX_BUFFER_SIZE) :
    Returns (do
      let e ← ReferTo ndebug off
      let _ ← PushElement ndebug 4 e) t fun _ u => Entries base (done ++ [off]) u := by
  have hbound : FLATBUFFERS_MAX_BUFFER_SIZE < 256 ^ 4 := by decide
  have hlen := h.length
  obtain ⟨new, m, hnew, hm, rfl⟩ := h.frame
  generalize hteq : base.add new m = t at *
  have htm : Aligned t.minalign_ := by
    rw [← hteq]
    exact hm
  refine (returns_ReferTo (Q := fun e u => ∃ m', Aligned m' ∧ e = t.buf_.length - off + 4 ∧ u = t.add [] m') hoff
    (by omega) (by omega) fun k m' hk => ?_).bind ?_
  · obtain rfl : k = 0 := by
      have hlt := hk.lt
      have haligned := hk.aligned
      omega
    exact ⟨m', hk.minalign htm, rfl, rfl⟩
  rintro _ _ ⟨m', hm', rfl, rfl⟩
  have hlen' : (t.add [] m').buf_.length = t.buf_.length := rfl
  generalize he : t.buf_.length - off + 4 = e
  refine (returns_PushElement_aligned (Q := fun _ u => ∃ m, Aligned m ∧ u = t.add (scalarBytes 4 e) m) aligned_four
    (by rw [hlen']; omega) (by rw [hlen']; omega) fun m'' hm'' => ⟨m'', hm'' hm', ?_⟩).bind ?_
  · rw [add_add, List.append_nil]
  rintro _ _ ⟨m'', hm'', rfl⟩
  apply returns_pure
  have hplace : (scalarBytes 4 e ++ t.buf_).length = 4 + t.buf_.length := by
    rw [List.length_append, length_scalarBytes]
  have hat := at_Refers t.buf_ (show e < 256 ^ 4 by omega) (show e + off = _ by rw [hplace]; omega)
  refine ⟨⟨scalarBytes 4 e ++ new, m'', ?_, hm'', by rw [← hteq, add_add]⟩, fun i hi => ?_⟩
  · rw [List.length_append, length_scalarBytes, hnew, List.length_append, List.length_singleton]
    omega
  · rw [List.length_append, List.length_singleton] at hi
    rw [add_buf]
    rcases Nat.lt_or_eq_of_le (Nat.le_of_lt_succ hi) with hlt | rfl
    · rw [List.getElem_append_left hlt]
      exact (h.entries i hlt).grow (List.suffix_append _ _)
    · have hend : base.buf_.length + 4 * (done.length + 1) = (scalarBytes 4 e ++ t.buf_).length := by
        rw [hplace]
        omega
      rw [List.getElem_append_right le_rfl, hend]
      simpa using hat

theorem HasReferences.of_entries {offs : List ℕ} {buf m : Bytes} {loc : ℕ} (base : ℕ)
    (hsize : size buf (buf.length - loc) = .ok offs.length) (hloc : loc = base + 4 * offs.length + 4)
    (hle : loc ≤ buf.length) (hm : m <:+ buf)
    (h : ∀ (i : ℕ) (_ : i < offs.reverse.length), At (Refers offs.reverse[i]) m (base + 4 * (i + 1))) :
    HasReferences ndebug offs buf (buf.length - loc) := by
  refine ⟨hsize, fun i hi => ?_⟩
  have hrev : offs.length - 1 - i < offs.reverse.length := by
    rw [List.length_reverse]
    omega
  have hentry := (h (offs.length - 1 - i) hrev).holds buf hm
  have hget : offs.reverse[offs.length - 1 - i] = offs[i] := by
    rw [List.getElem_reverse]
    congr 1
    omega
  rw [hget] at hentry
  obtain ⟨d, hd, hto⟩ := hentry
  have hplace : buf.length - loc + 4 + i * 4 = buf.length - (base + 4 * (offs.length - 1 - i + 1)) := by omega
  unfold GetIndirect
  rw [hsize, ok_bind, cassert_ok hi, ok_bind]
  dsimp only
  rw [hplace, hd, ok_bind, hto]
  rfl

/-- **A vector of references is read as it was written.** -/
theorem returns_CreateOffsetVector {offs : List ℕ} (hoffs : ∀ off ∈ offs, 0 < off ∧ off ≤ b.buf_.length)
    (hclean : b.Clean) (hroom : b.buf_.length + 4 * offs.length + 24 < FLATBUFFERS_MAX_BUFFER_SIZE) :
    Returns (CreateOffsetVector ndebug offs) b fun loc t =>
      Grows b t (4 * offs.length + 24) ∧ At (HasReferences ndebug offs) t.buf_ loc := by
  have hbound : FLATBUFFERS_MAX_BUFFER_SIZE < 256 ^ 4 := by decide
  unfold CreateOffsetVector
  refine (returns_StartVector aligned_four hclean (by omega)).bind ?_
  rintro _ _ ⟨k, m, hk, hm, rfl, halign⟩
  generalize hbase : ({ b.add (List.replicate k 0) m with nested := true } : FlatBufferBuilder) = base
  have hbuf : base.buf_ = List.replicate k 0 ++ b.buf_ := by rw [← hbase]; rfl
  have hlength : base.buf_.length = k + b.buf_.length := by rw [hbuf, List.length_append, List.length_replicate]
  have hmbase : Aligned base.minalign_ := by rw [← hbase]; exact hm
  have hstart : Entries base [] base := ⟨⟨[], _, rfl, hmbase, rfl⟩, fun i hi => absurd hi (Nat.not_lt_zero _)⟩
  refine Returns.bind (returns_forEach (I := Entries base) ?_ hstart) ?_
  · -- the last entry first
    intro done off rest t hsplit ht
    have hmem : off ∈ offs := List.mem_reverse.mp (by simp [hsplit])
    have hcount : done.length < offs.length := by
      have hcount := congrArg List.length hsplit
      rw [List.length_reverse, List.length_append, List.length_cons] at hcount
      omega
    have hlen := ht.length
    obtain ⟨hpos, hle⟩ := hoffs off hmem
    have := halign (by omega)
    exact ht.add (by omega) hpos (by omega) (by omega)
  · rintro _ t ht
    have hlen := ht.length
    rw [List.length_reverse] at hlen
    obtain ⟨new, m', hnew, hm', rfl⟩ := ht.frame
    have hentries := ht.entries
    generalize hteq : base.add new m' = t at *
    have htbuf : t.buf_ = new ++ base.buf_ := by rw [← hteq]; rfl
    have htframe : t.nested = true ∧ t.vtables = b.vtables ∧ t.field_locs = [] ∧ t.max_voffset_ = 0 ∧
        Aligned t.minalign_ := by
      rw [← hteq, ← hbase]
      exact ⟨rfl, rfl, hclean.field_locs, hclean.max_voffset, hm'⟩
    obtain ⟨hnested, hvtables, hlocs, hmax, hmt⟩ := htframe
    refine (returns_EndVector hnested hmt (by omega)).mono ?_
    rintro loc u ⟨k', m'', hk', hzero, hm'', rfl, rfl⟩
    have hulen : (scalarBytes 4 offs.length ++ (List.replicate k' 0 ++ t.buf_)).length = t.buf_.length + k' + 4 := by
      rw [List.length_append, List.length_append, length_scalarBytes, List.length_replicate]
      omega
    have hat := at_scalar (List.replicate k' 0 ++ t.buf_) (show 0 < 4 by omega) (show offs.length < 256 ^ 4 by omega)
    rw [hulen] at hat
    unfold add
    dsimp only
    rw [List.append_assoc]
    refine ⟨⟨?_, by dsimp only; omega, rfl, hlocs, hmax, ?_, hm''⟩, hat.pos, hat.le, fun buf hsuf => ?_⟩
    · exact ⟨scalarBytes 4 offs.length ++ (List.replicate k' 0 ++ (new ++ List.replicate k 0)), by
        rw [htbuf, hbuf]
        simp only [List.append_assoc]⟩
    · intro v hv
      rw [hvtables] at hv
      have := hclean.vtables v hv
      dsimp only
      omega
    · have htsuf : t.buf_ <:+ scalarBytes 4 offs.length ++ (List.replicate k' 0 ++ t.buf_) :=
        ⟨scalarBytes 4 offs.length ++ List.replicate k' 0, by simp only [List.append_assoc]⟩
      have hle := hsuf.length_le
      rw [hulen] at hle
      have hsize := hat.holds buf hsuf
      by_cases hnil : offs = []
      · subst hnil
        exact ⟨hsize, fun i hi => absurd hi (Nat.not_lt_zero _)⟩
      · have hpos := List.length_pos_of_ne_nil hnil
        have := halign hpos
        obtain rfl := hzero (by omega)
        exact HasReferences.of_entries base.buf_.length hsize (by omega) hle (htsuf.trans hsuf) hentries

end MfxProxy.Flatbuffers
