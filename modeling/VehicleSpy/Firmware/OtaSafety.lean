import VehicleSpy.Machine.Run
import VehicleSpy.Firmware.OtaUpdateServer

/-! # Safety of the OTA update server over whole runs

An empty error string records that nothing has failed since the latest upload began,
and the signature buffer then holds what that upload's header decodes to. From this
follow which images are selected for boot and when success is reported.
-/

namespace VehicleSpy.Firmware.OtaUpdateServer

open Machine Text OtaConfig

variable {P : Type} {s : OtaUpdateServer} {env : OtaEnv P} {upload : IHttpUpload}

section Signature

theorem hexToByte_eq (c : Byte) :
    hexToByte c = if isDigit 16 c then some (alnumVal c).toUInt8 else none := by
  revert c
  exact forall_byte (by decide +kernel)

/-- A successful loop has replaced the front of the buffer by what the digits denote. -/
theorem writeHexSig_ok {hex out r : Bytes} (h : writeHexSig hex out = (true, r))
    (hl : hex.length = 2 * out.length) : hexBytes hex = some r := by
  fun_induction writeHexSig hex out generalizing r with
  | case1 hi lo hex out l h hlo hhi ok rest heq ih =>
    simp only [hexToByte_eq, Option.ite_none_right_eq_some, Option.some.injEq] at hlo hhi
    obtain ⟨dlo, rfl⟩ := hlo
    obtain ⟨dhi, rfl⟩ := hhi
    obtain ⟨rfl, rfl⟩ := Prod.mk.inj h
    simp only [List.length_cons] at hl
    have hrest := ih heq (by rw [List.length_tail]; omega)
    have hval : numValue 16 [hi, lo] = 16 * alnumVal hi + alnumVal lo := by simp [numValue]
    simp only [hexBytes, dhi, dlo, Bool.and_true, if_true, hrest, Option.map_some, hval]
    rw [hex_pair (of_decide_eq_true dhi) (of_decide_eq_true dlo)]
  | case2 => exact absurd (congrArg Prod.fst h) (by simp)
  | case3 hex out hne =>
    rcases hex with _ | ⟨hi, _ | ⟨lo, hex⟩⟩
    · obtain rfl : out = [] := List.length_eq_zero_iff.mp (by simpa using hl.symm)
      rw [hexBytes, (Prod.mk.inj h).2]
    · simp only [List.length_singleton] at hl
      omega
    · exact absurd rfl (hne hi lo hex)

/-- An accepted header denotes the 64 bytes of the signature. -/
theorem parseHexSig_ok {hex : Bytes} (h : (parseHexSig hex s.otaSig).1 = true) :
    hexBytes hex = some (parseHexSig hex s.otaSig).2 := by
  unfold parseHexSig at h ⊢
  split at h
  · exact absurd h (by simp)
  · next hl =>
    have hlen : hex.length = 128 := not_not.mp hl
    rw [if_neg hl]
    exact writeHexSig_ok (Prod.ext h rfl) (by rw [hlen, s.otaSig_length])

end Signature

/-- The bytes that a list of calls hands to the hash. -/
def hashedBytes (calls : List (OtaCall P)) : Bytes :=
  calls.flatMap fun
    | .signEd25519phUpdate data => data
    | _ => []

section Verify

variable {part : P}

/-- The bytes of a partition from one offset to another. -/
def image (partition : IPartition P) (part : P) (off size : ℕ) : Bytes :=
  (List.range' off (size - off)).map (partition.content part)

theorem image_append {partition : IPartition P} {off n size : ℕ} (h : n ≤ size - off) :
    (List.range' off n).map (partition.content part) ++ image partition part (off + n) size =
      image partition part off size := by
  have hs : size - off = n + (size - (off + n)) := by omega
  rw [image, image, hs, ← List.map_append, List.range'_append_1]

/-- A completed hash loop has hashed the image from its offset on. -/
theorem hashedBytes_hashFrom (env : OtaEnv P) (part : P) (size off : ℕ) (hashed : Bytes)
    (h : (hashFrom env part size off hashed).1.isSome) :
    hashedBytes (hashFrom env part size off hashed).2 = image env.partition part off size := by
  fun_induction hashFrom env part size off hashed with
  | case1 => exact absurd h (by simp)
  | case2 => exact absurd h (by simp)
  | case3 off hashed hlt n rc chunk hread hrc hup res calls hrest ih =>
    rw [hrest] at ih
    have hchunk : chunk = (List.range' off n).map (env.partition.content part) := by
      have hok := env.partition.read_ok part off n
      rw [hread] at hok
      exact hok (not_not.mp hrc)
    rw [← image_append (min_le_left (size - off) VERIFY_CHUNK_SIZE), ← hchunk, ← ih h]
    rfl
  | case4 off hashed hge =>
    rw [image, Nat.sub_eq_zero_of_le (not_lt.mp hge)]
    rfl

/-- The calls that the partition check makes. -/
def isVerifyCall : OtaCall P → Bool
  | .read .. | .signEd25519phInit | .signEd25519phUpdate _ | .signEd25519phFinalVerify .. => true
  | _ => false

theorem isVerifyCall_hashFrom (env : OtaEnv P) (part : P) (size off : ℕ) (hashed : Bytes) :
    ∀ c ∈ (hashFrom env part size off hashed).2, isVerifyCall c = true := by
  fun_induction hashFrom env part size off hashed with
  | case1 => simp [isVerifyCall]
  | case2 => simp [isVerifyCall]
  | case3 off hashed hlt n rc chunk hread hrc hup res calls hrest ih =>
    rw [hrest] at ih
    simpa [isVerifyCall] using ih
  | case4 => simp

/-- A verified partition is large enough, its first `size` bytes are what was hashed, and the
final check has accepted the signature. -/
structure Verified (env : OtaEnv P) (part : P) (size : UInt32) (sig : Bytes)
    (calls : List (OtaCall P)) : Prop where
  verify : verifyPartition env part size sig = (true, calls)
  fits : size ≤ env.partition.size part
  hashed : hashedBytes calls = image env.partition part 0 size.toNat
  signed : .signEd25519phFinalVerify sig 0 ∈ calls

/-- The partition check fails or verifies the image, with no other calls than its own. -/
theorem verifyPartition_cases (env : OtaEnv P) (part : P) (size : UInt32) (sig : Bytes) :
    ∃ calls, (verifyPartition env part size sig = (false, calls) ∨
      Verified env part size sig calls) ∧ ∀ c ∈ calls, isVerifyCall c = true := by
  by_cases hfit : size > env.partition.size part
  · exact ⟨[], Or.inl (by rw [verifyPartition, if_pos hfit]), by simp⟩
  by_cases hinit : env.crypto.signEd25519phInit ≠ 0
  · exact ⟨_, Or.inl (by rw [verifyPartition, if_neg hfit, if_pos hinit]), by simp [isVerifyCall]⟩
  have hown := isVerifyCall_hashFrom env part size.toNat 0 []
  have hhash := hashedBytes_hashFrom env part size.toNat 0 []
  rcases hloop : hashFrom env part size.toNat 0 [] with ⟨_ | hashed, calls⟩ <;>
    rw [hloop] at hown hhash
  · refine ⟨.signEd25519phInit :: calls, Or.inl ?_, List.forall_mem_cons.mpr ⟨rfl, hown⟩⟩
    rw [verifyPartition, if_neg hfit, if_neg hinit, hloop]
  · have heq : verifyPartition env part size sig =
        (decide (env.crypto.signEd25519phFinalVerify hashed sig = 0),
          .signEd25519phInit :: calls ++
            [.signEd25519phFinalVerify sig (env.crypto.signEd25519phFinalVerify hashed sig)]) := by
      rw [verifyPartition, if_neg hfit, if_neg hinit, hloop]
    refine ⟨.signEd25519phInit :: calls ++
      [.signEd25519phFinalVerify sig (env.crypto.signEd25519phFinalVerify hashed sig)], ?_, ?_⟩
    · by_cases hv : env.crypto.signEd25519phFinalVerify hashed sig = 0
      · right
        rw [hv, decide_eq_true rfl] at heq
        rw [hv]
        constructor
        · exact heq
        · exact UInt32.not_lt.mp hfit
        · rw [← hhash rfl]
          simp [hashedBytes]
        · simp
      · exact Or.inl (by rw [heq, decide_eq_false hv])
    · intro c hc
      rw [List.mem_append, List.mem_cons, List.mem_singleton] at hc
      rcases hc with (rfl | hc) | rfl
      · rfl
      · exact hown c hc
      · rfl

end Verify

section Step

theorem errorMessage_ne_nil (err : OtaError) : errorMessage err ≠ [] := by
  cases err <;> decide

theorem reportError_otaErr_ne_nil (s : OtaUpdateServer) (err : OtaError) :
    (s.reportError err : OtaUpdateServer × List (OtaCall P)).1.otaErr ≠ [] :=
  errorMessage_ne_nil err

theorem failAfter_otaErr_ne_nil (calls : List (OtaCall P)) (err : OtaError) :
    (s.failAfter calls err).1.otaErr ≠ [] := errorMessage_ne_nil err

/-- The status of the chunk that an event delivers. -/
def chunkStatus : OtaEvent P → Option UploadStatus
  | .handleUpload _ upload => some upload.status
  | _ => none

def isPost : OtaEvent P → Bool
  | .handlePost _ => true
  | _ => false

/-- The calls report no error. -/
def NoError (calls : List (OtaCall P)) : Prop := ∀ err msg, .errorCallback err msg ∉ calls

/-- A start chunk that leaves no error has decoded the signature of its own request. -/
theorem handleStart_ok (h : (s.handleStart env).1.otaErr = []) :
    hexBytes env.header = some (s.handleStart env).1.otaSig ∧ NoError (s.handleStart env).2 := by
  unfold handleStart at h ⊢
  dsimp only at h ⊢
  split at h
  · exact absurd h (reportError_otaErr_ne_nil _ _)
  split at h
  · exact absurd h (reportError_otaErr_ne_nil _ _)
  split at h
  · exact absurd h (failAfter_otaErr_ne_nil _ _)
  next hs hp hb =>
  rw [if_neg hs, if_neg hp, if_neg hb]
  exact ⟨parseHexSig_ok (by simpa using hp), by simp [NoError]⟩

theorem handleWrite_otaSig : (s.handleWrite env upload).1.otaSig = s.otaSig := by
  unfold handleWrite
  split
  · rfl
  · dsimp only
    split <;> rfl

theorem handleWrite_ok (h : (s.handleWrite env upload).1.otaErr = []) :
    NoError (s.handleWrite env upload).2 := by
  unfold handleWrite at h ⊢
  split at h
  · exact absurd h (failAfter_otaErr_ne_nil _ _)
  · dsimp only at h
    split at h
    · exact absurd h (failAfter_otaErr_ne_nil _ _)
    · next ht hw =>
      rw [if_neg ht, if_neg hw]
      simp [NoError]

/-- An end chunk fails without selecting anything, or selects the partition it has verified. -/
theorem handleEnd_cases (s : OtaUpdateServer) (env : OtaEnv P) (upload : IHttpUpload) :
    (s.handleEnd env upload).1.otaSig = s.otaSig ∧
      ((s.handleEnd env upload).1.otaErr ≠ [] ∧
          (∀ p answer, .setBootPartition p answer ∉ (s.handleEnd env upload).2) ∨
        ∃ target calls answer rest, Verified env target upload.totalSize s.otaSig calls ∧
          (∀ c ∈ calls, isVerifyCall c = true) ∧
          (s.handleEnd env upload).2 =
            .updateEnd true :: calls ++ .setBootPartition target answer :: rest ∧
          (∀ p answer, .setBootPartition p answer ∉ rest) ∧
          (rest = [] ∧ answer = 0 ∨ (s.handleEnd env upload).1.otaErr ≠ [])) := by
  unfold handleEnd
  dsimp only
  split
  · exact ⟨rfl, Or.inl ⟨failAfter_otaErr_ne_nil _ _, by simp [failAfter, reportError]⟩⟩
  split
  · exact ⟨rfl, Or.inl ⟨failAfter_otaErr_ne_nil _ _, by simp [failAfter, reportError]⟩⟩
  split
  · exact ⟨rfl, Or.inl ⟨failAfter_otaErr_ne_nil _ _, by simp [failAfter, reportError]⟩⟩
  next target _ =>
  obtain ⟨calls, hv | hv, hown⟩ := verifyPartition_cases env target upload.totalSize s.otaSig
  · rw [hv]
    refine ⟨rfl, Or.inl ⟨failAfter_otaErr_ne_nil _ _, ?_⟩⟩
    intro p answer h
    have hmem : OtaCall.setBootPartition p answer ∈ calls := by
      simpa [failAfter, reportError] using h
    exact absurd (hown _ hmem) (by simp [isVerifyCall])
  · rw [hv.verify]
    simp only [Bool.not_true, Bool.false_eq_true, if_false]
    split
    · refine ⟨rfl, Or.inr ⟨target, calls, env.partition.setBootPartition target,
        (s.reportError .SET_BOOT_PARTITION_FAILED).2, hv, hown, ?_, by simp [reportError],
        Or.inr (failAfter_otaErr_ne_nil _ _)⟩⟩
      simp only [failAfter, List.append_assoc, List.cons_append, List.nil_append]
    · next ha => exact ⟨rfl, Or.inr ⟨target, calls, _, [], hv, hown, by simp, by simp,
        Or.inl ⟨rfl, not_not.mp ha⟩⟩⟩

/-- Any event but a start chunk keeps the signature, and keeps an error once there is one. -/
theorem step_sticky (e : OtaEvent P) (he : chunkStatus e ≠ some .UPLOAD_FILE_START) :
    (s.step e).1.otaSig = s.otaSig ∧ ((s.step e).1.otaErr = [] → s.otaErr = []) := by
  cases e with
  | handleUpload env upload =>
    simp only [step, handleUpload]
    split
    · next hst => exact absurd (congrArg some hst) he
    · split
      · next hok => exact ⟨handleWrite_otaSig, fun _ => hok⟩
      · exact ⟨rfl, id⟩
    · split
      · next hok => exact ⟨(handleEnd_cases s env upload).1, fun _ => hok⟩
      · exact ⟨rfl, id⟩
    · exact ⟨rfl, fun h => absurd h (failAfter_otaErr_ne_nil _ _)⟩
  | _ => exact ⟨rfl, id⟩

/-- The events of a log are their inputs and their calls. -/
abbrev Entry (P : Type) := OtaEvent P × List (OtaCall P)

/-- An entry of an upload in which nothing has failed. -/
structure Healthy (x : Entry P) : Prop where
  quiet : isPost x.1 = false → NoError x.2
  alive : chunkStatus x.1 ≠ some .UPLOAD_FILE_ABORTED
  passed : chunkStatus x.1 = some .UPLOAD_FILE_END →
    (∃ sig, .signEd25519phFinalVerify sig 0 ∈ x.2) ∧ ∃ p, .setBootPartition p 0 ∈ x.2

/-- An event that neither ends nor aborts an upload only has to report no error. -/
theorem Healthy.of_ongoing {x : Entry P} (hq : isPost x.1 = false → NoError x.2)
    (hs : ∀ st ∈ chunkStatus x.1, st = .UPLOAD_FILE_START ∨ st = .UPLOAD_FILE_WRITE) :
    Healthy x := by
  constructor
  · exact hq
  · intro h
    rcases hs _ h with hst | hst <;> cases hst
  · intro h
    rcases hs _ h with hst | hst <;> cases hst

theorem handleEnd_healthy (hst : upload.status = .UPLOAD_FILE_END)
    (h : (s.handleEnd env upload).1.otaErr = []) :
    Healthy (.handleUpload env upload, (s.handleEnd env upload).2) := by
  obtain ⟨-, ⟨hne, -⟩ | ⟨target, calls, answer, rest, hv, hown, heq, -, ⟨rfl, rfl⟩ | hne⟩⟩ :=
    handleEnd_cases s env upload
  · exact absurd h hne
  · rw [heq]
    constructor
    · intro _ err msg hmem
      have hc : OtaCall.errorCallback err msg ∈ calls := by simpa using hmem
      exact absurd (hown _ hc) (by simp [isVerifyCall])
    · simp [chunkStatus, hst]
    · intro _
      constructor
      · exact ⟨s.otaSig, List.mem_cons_of_mem _ (List.mem_append_left _ hv.signed)⟩
      · exact ⟨target, by simp⟩
  · exact absurd h hne

/-- If no error is left after an event that follows no error, the event is healthy. -/
theorem step_healthy (e : OtaEvent P) (h : (s.step e).1.otaErr = []) :
    Healthy (e, (s.step e).2) := by
  cases e with
  | handleUpload env upload =>
    cases hst : upload.status with
    | UPLOAD_FILE_START =>
      simp only [step, handleUpload, hst] at h ⊢
      apply Healthy.of_ongoing
      · exact fun _ => (handleStart_ok h).2
      · simp [chunkStatus, hst]
    | UPLOAD_FILE_WRITE =>
      have hok := (step_sticky (s := s) (.handleUpload env upload) (by simp [chunkStatus, hst])).2 h
      simp only [step, handleUpload, hst, if_pos hok] at h ⊢
      apply Healthy.of_ongoing
      · exact fun _ => handleWrite_ok h
      · simp [chunkStatus, hst]
    | UPLOAD_FILE_END =>
      have hok := (step_sticky (s := s) (.handleUpload env upload) (by simp [chunkStatus, hst])).2 h
      simp only [step, handleUpload, hst, if_pos hok] at h ⊢
      exact handleEnd_healthy hst h
    | UPLOAD_FILE_ABORTED =>
      simp only [step, handleUpload, hst] at h
      exact absurd h (failAfter_otaErr_ne_nil _ _)
  | handlePost hasError => exact .of_ongoing (by simp [isPost]) (by simp [chunkStatus])
  | setup sodiumInit => exact .of_ongoing (by simp [NoError, step, setup]) (by simp [chunkStatus])
  | handleGet => exact .of_ongoing (by simp [NoError, step, handleGet]) (by simp [chunkStatus])
  | markValidOnBoot partition =>
    apply Healthy.of_ongoing
    · intro _ err msg
      simp only [step, markValidOnBoot]
      split
      · simp
      · split <;> simp
    · simp [chunkStatus]

end Step

section Run

variable {w : List (OtaEvent P)}

/-- While no error is left, everything since the latest start chunk has been healthy. -/
theorem healthy_run (s : OtaUpdateServer) (w : List (OtaEvent P)) {x : Entry P}
    {b : List (Entry P)}
    (hx : Latest (fun x => chunkStatus x.1 = some .UPLOAD_FILE_START) (history step s w) x b)
    (herr : (after step s w).otaErr = []) : ∀ y ∈ x :: b, Healthy y := by
  refine history_induction step (I := fun log t => ∀ x b,
    Latest (fun x => chunkStatus x.1 = some .UPLOAD_FILE_START) log x b →
      t.otaErr = [] → ∀ y ∈ x :: b, Healthy y) ?_ ?_ w x b hx herr
  · intro x b hx
    exact absurd (List.eq_nil_of_suffix_nil hx.suffix) (List.cons_ne_nil _ _)
  · intro log t e ih x b hx ht
    rcases hx.concat with ⟨rfl, rfl⟩ | ⟨hne, b', rfl, hx'⟩
    · rintro y (_ | ⟨_, ⟨⟩⟩)
      exact step_healthy e ht
    · rw [← List.cons_append]
      rintro y hy
      rcases List.mem_append.mp hy with hy | hy
      · exact ih x b' hx' ((step_sticky e hne).2 ht) y hy
      · rw [List.mem_singleton.mp hy]
        exact step_healthy e ht

/-- While no error is left, the signature buffer holds what the latest start's header denotes. -/
theorem signature_run (s : OtaUpdateServer) (w : List (OtaEvent P)) {env : OtaEnv P}
    {upload : IHttpUpload} {b : List (OtaEvent P)}
    (hx : Latest (chunkStatus · = some .UPLOAD_FILE_START) w (.handleUpload env upload) b)
    (herr : (after step s w).otaErr = []) :
    hexBytes env.header = some (after step s w).otaSig := by
  have hrun := history_induction step (s := s) (I := fun log t => ∀ env upload b,
    Latest (chunkStatus · = some .UPLOAD_FILE_START) (log.map Prod.fst)
      (.handleUpload env upload) b → t.otaErr = [] → hexBytes env.header = some t.otaSig) ?_ ?_ w
  · rw [map_fst_history] at hrun
    exact hrun env upload b hx herr
  · intro env upload b hx
    exact absurd (List.eq_nil_of_suffix_nil hx.suffix) (List.cons_ne_nil _ _)
  · intro log t e ih env upload b hx ht
    rw [List.map_append] at hx
    rcases hx.concat with ⟨rfl, rfl⟩ | ⟨hne, b', rfl, hx'⟩
    · have hst : upload.status = .UPLOAD_FILE_START := Option.some.inj hx.holds
      simp only [step, handleUpload, hst] at ht ⊢
      exact (handleStart_ok ht).1
    · obtain ⟨hsig, hkeep⟩ := step_sticky (s := t) e hne
      rw [hsig]
      exact ih env upload b' hx' (hkeep ht)

/-- The events of the upload that is running: its start chunk and the chunks written since. -/
structure InUpload (u : List (OtaEvent P)) (env : OtaEnv P) (upload : IHttpUpload)
    (b : List (OtaEvent P)) : Prop where
  suffix : .handleUpload env upload :: b <:+ u
  start : upload.status = .UPLOAD_FILE_START
  writes : ∀ e ∈ b, chunkStatus e = none ∨ chunkStatus e = some .UPLOAD_FILE_WRITE

theorem InUpload.latest {u : List (OtaEvent P)} {env : OtaEnv P} {upload : IHttpUpload}
    {b : List (OtaEvent P)} (h : InUpload u env upload b) :
    Latest (chunkStatus · = some .UPLOAD_FILE_START) u (.handleUpload env upload) b :=
  ⟨h.suffix, congrArg some h.start, fun e he => by
    rcases h.writes e he with hs | hs <;> simp [hs]⟩

/-- Each upload's chunks begin with a start chunk. -/
def Uploads (w : List (OtaEvent P)) : Prop :=
  ∀ u e v, w = u ++ e :: v → chunkStatus e ≠ none → chunkStatus e ≠ some .UPLOAD_FILE_START →
    ∃ env upload b, InUpload u env upload b

/-- A partition is selected for boot only by the end chunk of an upload whose signature header
decodes to what the final check has accepted, for the bytes of that same partition. -/
def SelectsOnlySigned (s : OtaUpdateServer) (w : List (OtaEvent P)) : Prop :=
  ∀ u e v part answer, w = u ++ e :: v →
    .setBootPartition part answer ∈ ((after step s u).step e).2 →
      ∃ env₀ upload₀ b env upload sig pre calls post, InUpload u env₀ upload₀ b ∧
        hexBytes env₀.header = some sig ∧ sig.length = 64 ∧
        e = .handleUpload env upload ∧ upload.status = .UPLOAD_FILE_END ∧
        ((after step s u).step e).2 = pre ++ calls ++ .setBootPartition part answer :: post ∧
        Verified env part upload.totalSize sig calls

/-- Only an end chunk under an empty error string selects a partition. -/
theorem setBoot_mem_step {e : OtaEvent P} {part : P} {answer : ℤ}
    (h : .setBootPartition part answer ∈ (s.step e).2) :
    s.otaErr = [] ∧ ∃ env upload, e = .handleUpload env upload ∧
      upload.status = .UPLOAD_FILE_END ∧
      .setBootPartition part answer ∈ (s.handleEnd env upload).2 := by
  cases e with
  | handleUpload env upload =>
    cases hst : upload.status with
    | UPLOAD_FILE_START =>
      simp only [step, handleUpload, hst, handleStart] at h
      split at h
      · simp [reportError] at h
      split at h
      · simp [reportError] at h
      split at h <;> simp [failAfter, reportError] at h
    | UPLOAD_FILE_WRITE =>
      simp only [step, handleUpload, hst, handleWrite] at h
      split at h
      · split at h
        · simp [failAfter, reportError] at h
        · split at h <;> simp [failAfter, reportError] at h
      · simp at h
    | UPLOAD_FILE_END =>
      simp only [step, handleUpload, hst] at h
      split at h
      · next hok => exact ⟨hok, env, upload, rfl, hst, h⟩
      · simp at h
    | UPLOAD_FILE_ABORTED => simp [step, handleUpload, hst, failAfter, reportError] at h
  | handlePost hasError =>
    simp only [step, handlePost] at h
    split at h
    · simp at h
    · split at h <;> simp at h
  | setup sodiumInit => simp [step, setup] at h
  | handleGet => simp [step, handleGet] at h
  | markValidOnBoot partition =>
    simp only [step, markValidOnBoot] at h
    split at h
    · simp at h
    · split at h <;> simp at h

/-- In every run whose uploads begin with a start chunk, only a signed image is selected. -/
theorem selects_only_signed (s : OtaUpdateServer) (hw : Uploads w) : SelectsOnlySigned s w := by
  rintro u e v part answer rfl hmem
  obtain ⟨herr, env, upload, rfl, hst, hend⟩ := setBoot_mem_step hmem
  obtain ⟨env₀, upload₀, b, hup⟩ :=
    hw u _ v rfl (by simp [chunkStatus]) (by simp [chunkStatus, hst])
  have hsig := signature_run s u hup.latest herr
  obtain ⟨-, ⟨-, hno⟩ | ⟨target, calls, answer', rest, hv, hown, heq, hrest, -⟩⟩ :=
    handleEnd_cases (after step s u) env upload
  · exact absurd hend (hno part answer)
  · have hboot : part = target ∧ answer = answer' := by
      rw [heq] at hend
      rcases List.mem_append.mp hend with hc | hc
      · have hc' : OtaCall.setBootPartition part answer ∈ calls := by simpa using hc
        exact absurd (hown _ hc') (by simp [isVerifyCall])
      · rcases List.mem_cons.mp hc with hc | hc
        · simpa using hc
        · exact absurd hc (hrest part answer)
    obtain ⟨rfl, rfl⟩ := hboot
    refine ⟨env₀, upload₀, b, env, upload, (after step s u).otaSig, [.updateEnd true], calls, rest,
      hup, hsig, (after step s u).otaSig_length, rfl, hst, ?_, hv⟩
    simp only [step, handleUpload, hst, if_pos herr]
    exact heq

/-- The part of a log after its latest response. -/
def sincePost (log : List (Entry P)) : List (Entry P) := log.rtakeWhile fun x => !isPost x.1

/-- The response reports success to the client or to the callback. -/
def ReportsSuccess (calls : List (OtaCall P)) : Prop :=
  .successCallback ∈ calls ∨ ∃ contentType content, .send HTTP_OK contentType content ∈ calls

/-- An upload began with a start chunk and reached its end chunk without an error; the final
check accepted its image, and the image was selected for boot. -/
structure VerifiedUpload (log : List (Entry P)) (x : Entry P) (b : List (Entry P)) (y : Entry P)
    (c : List (Entry P)) : Prop where
  split : x :: (b ++ y :: c) <:+ log
  start : chunkStatus x.1 = some .UPLOAD_FILE_START
  finish : chunkStatus y.1 = some .UPLOAD_FILE_END
  writes : ∀ z ∈ b, chunkStatus z.1 = none ∨ chunkStatus z.1 = some .UPLOAD_FILE_WRITE
  quiet : ∀ z ∈ x :: (b ++ [y]), NoError z.2
  signed : ∃ sig, .signEd25519phFinalVerify sig 0 ∈ y.2
  selected : ∃ part, .setBootPartition part 0 ∈ y.2

/-- Success is reported only if an upload has been verified since the response before. -/
def SuccessVerified (s : OtaUpdateServer) (w : List (OtaEvent P)) : Prop :=
  ∀ u v hasError, w = u ++ .handlePost hasError :: v →
    ReportsSuccess ((after step s u).handlePost hasError : List (OtaCall P)) →
      ∃ x b y c, VerifiedUpload (sincePost (history step s u)) x b y c

/-- The chunk ends its upload, regularly or not. -/
def closes (e : OtaEvent P) : Bool :=
  chunkStatus e = some .UPLOAD_FILE_END || chunkStatus e = some .UPLOAD_FILE_ABORTED

/-- A response under no error comes after an end or abort of the latest upload that was started
since the response before. -/
def PostsAfterUpload (s : OtaUpdateServer) (w : List (OtaEvent P)) : Prop :=
  ∀ u v, w = u ++ .handlePost false :: v → (after step s u).otaErr = [] →
    ∃ x b, Latest (fun x => chunkStatus x.1 = some .UPLOAD_FILE_START)
        (sincePost (history step s u)) x b ∧ ∃ y ∈ b, closes y.1 = true

theorem reportsSuccess_handlePost {hasError : Bool}
    (h : ReportsSuccess (s.handlePost hasError : List (OtaCall P))) :
    s.otaErr = [] ∧ hasError = false := by
  have hcode : httpCode (classify s.otaErr) ≠ HTTP_OK := by
    unfold classify
    dsimp only
    split
    · decide
    · split <;> decide
  by_cases herr : s.otaErr = []
  · constructor
    · exact herr
    cases hasError with
    | false => rfl
    | true => simp [ReportsSuccess, handlePost, herr, HTTP_OK, HTTP_BAD_REQUEST] at h
  · simp [ReportsSuccess, handlePost, herr, Ne.symm hcode] at h

theorem notPost_of_mem_sincePost {log : List (Entry P)} {x : Entry P} (h : x ∈ sincePost log) :
    isPost x.1 = false := by
  simpa using List.mem_rtakeWhile_imp h

theorem writes_of_open {e : OtaEvent P} (hs : chunkStatus e ≠ some .UPLOAD_FILE_START)
    (hc : closes e = false) :
    chunkStatus e = none ∨ chunkStatus e = some .UPLOAD_FILE_WRITE := by
  rcases h : chunkStatus e with _ | _ | _ | _ | _ <;> simp_all [closes]

/-- If each response comes after the end of an upload, success is reported only when verified. -/
theorem success_verified (s : OtaUpdateServer) (hw : PostsAfterUpload s w) :
    SuccessVerified s w := by
  rintro u v hasError rfl hsuccess
  obtain ⟨herr, rfl⟩ := reportsSuccess_handlePost hsuccess
  obtain ⟨x, b, hx, y, hy, hend⟩ := hw u v rfl herr
  have hlog : sincePost (history step s u) <:+ history step s u := List.rtakeWhile_suffix _ _
  have hhealthy := healthy_run s u ⟨hx.suffix.trans hlog, hx.holds, hx.rest⟩ herr
  have hquiet : ∀ z ∈ x :: b, NoError z.2 := fun z hz =>
    (hhealthy z hz).quiet (notPost_of_mem_sincePost (hx.suffix.subset hz))
  obtain ⟨y, hfind⟩ := Option.isSome_iff_exists.mp
    (List.find?_isSome (p := fun y : Entry P => closes y.1).mpr ⟨y, hy, hend⟩)
  obtain ⟨hclose, b', c, rfl, hb'⟩ := List.find?_eq_some_iff_append.mp hfind
  have hy' := hhealthy y (by simp)
  have hfinish : chunkStatus y.1 = some .UPLOAD_FILE_END := by
    have hno := hy'.alive
    simpa [closes, hno] using hclose
  obtain ⟨hsigned, hselected⟩ := hy'.passed hfinish
  refine ⟨x, b', y, c, ?_⟩
  constructor
  · exact hx.suffix
  · exact hx.holds
  · exact hfinish
  · intro z hz
    exact writes_of_open (hx.rest z (List.mem_append_left _ hz)) (by simpa using hb' z hz)
  · intro z hz
    apply hquiet
    rw [List.mem_cons, List.mem_append, List.mem_singleton] at hz
    rcases hz with rfl | hz | rfl
    · exact List.mem_cons_self
    · exact List.mem_cons_of_mem _ (List.mem_append_left _ hz)
    · simp
  · exact hsigned
  · exact hselected

end Run

section Bench

def booted : OtaUpdateServer := { otaSig := List.replicate 64 0, otaSig_length := by simp }

/-- Two partitions; the second one is free and holds the bytes 0, 1, 2 and so on. -/
def flash : IPartition Bool where
  getRunningPartition := some false
  getNextUpdatePartition := fun _ => some true
  size := fun _ => 4096
  content := fun _ i => i.toUInt8
  read := fun _ off n => (0, (List.range' off n).map fun i => i.toUInt8)
  setBootPartition := fun _ => 0
  read_ok := fun _ _ _ _ => rfl

/-- A device whose check accepts one image under the all-zero signature. -/
def device : OtaEnv Bool where
  header := List.replicate 128 48
  update := { write := 3 }
  partition := flash
  crypto := ⟨0, fun _ _ => 0, fun hashed sig =>
    if hashed = [0, 1, 2] ∧ sig = List.replicate 64 0 then 0 else -1⟩
  millis := 1000

def received : List (OtaEvent Bool) :=
  [.setup 0, .handleUpload device { status := .UPLOAD_FILE_START },
    .handleUpload device { status := .UPLOAD_FILE_WRITE, buf := [0, 1, 2], currentSize := 3 }]

def lastChunk : OtaEvent Bool :=
  .handleUpload device { status := .UPLOAD_FILE_END, totalSize := 3 }

theorem step_lastChunk :
    (after step booted received).step lastChunk = (after step booted received,
      [.updateEnd true, .signEd25519phInit, .read true 0 3, .signEd25519phUpdate [0, 1, 2],
        .signEd25519phFinalVerify (List.replicate 64 0) 0, .setBootPartition true 0]) := by
  have hsig : (after step booted received).otaSig = List.replicate 64 0 := by decide +kernel
  have herr : (after step booted received).otaErr = [] := by decide +kernel
  have hhash : hashFrom device true 3 0 [] =
      (some [0, 1, 2], [.read true 0 3, .signEd25519phUpdate [0, 1, 2]]) := by
    simp [hashFrom, device, flash, VERIFY_CHUNK_SIZE, List.range'_succ]
  have hverify : verifyPartition device true 3 (List.replicate 64 0) =
      (true, [.signEd25519phInit, .read true 0 3, .signEd25519phUpdate [0, 1, 2],
        .signEd25519phFinalVerify (List.replicate 64 0) 0]) := by
    unfold verifyPartition
    rw [show (3 : UInt32).toNat = 3 from rfl, hhash]
    decide +kernel
  have hnext : device.partition.getNextUpdatePartition device.partition.getRunningPartition =
      some true := rfl
  simp only [step, lastChunk, handleUpload, herr, if_true, handleEnd, hsig, hnext, hverify]
  rfl

/-- The whole upload: the setup, the three chunks and the response. -/
def wholeUpload : List (OtaEvent Bool) := received ++ [lastChunk, .handlePost false]

theorem uploads_wholeUpload : Uploads wholeUpload := by
  intro u e v h hne hns
  refine ⟨device, { status := .UPLOAD_FILE_START }, ?_⟩
  rcases u with _ | ⟨a, _ | ⟨b, _ | ⟨c, _ | ⟨d, _ | ⟨f, u⟩⟩⟩⟩⟩ <;>
    simp only [wholeUpload, received, lastChunk, List.cons_append, List.nil_append,
      List.cons.injEq, List.nil_eq, List.append_eq_nil_iff, reduceCtorEq, and_false] at h
  · obtain ⟨rfl, -⟩ := h
    exact absurd rfl hne
  · obtain ⟨-, rfl, -⟩ := h
    exact absurd rfl hns
  · obtain ⟨rfl, rfl, rfl, -⟩ := h
    exact ⟨[], ⟨[_], rfl⟩, rfl, by simp⟩
  · obtain ⟨rfl, rfl, rfl, rfl, -⟩ := h
    exact ⟨[_], ⟨[_], rfl⟩, rfl, by simp [chunkStatus]⟩
  · obtain ⟨-, -, -, -, rfl, -⟩ := h
    exact absurd rfl hne

theorem postsAfterUpload_wholeUpload : PostsAfterUpload booted wholeUpload := by
  intro u v h _
  rcases u with _ | ⟨a, _ | ⟨b, _ | ⟨c, _ | ⟨d, _ | ⟨f, u⟩⟩⟩⟩⟩ <;>
    simp only [wholeUpload, received, lastChunk, List.cons_append, List.nil_append,
      List.cons.injEq, List.nil_eq, List.append_eq_nil_iff, reduceCtorEq, and_false,
      false_and] at h
  obtain ⟨rfl, rfl, rfl, rfl, -⟩ := h
  exact ⟨_, [_, _], ⟨⟨[_], rfl⟩, rfl, by simp [chunkStatus]⟩, _,
    List.mem_cons_of_mem _ (List.mem_singleton_self _), rfl⟩

theorem selects_only_signed_wholeUpload :
    .setBootPartition true 0 ∈ ((after step booted received).step lastChunk).2 ∧
      SelectsOnlySigned booted wholeUpload :=
  ⟨by rw [step_lastChunk]; decide, selects_only_signed booted uploads_wholeUpload⟩

theorem success_verified_wholeUpload :
    ReportsSuccess (((after step booted (received ++ [lastChunk])).handlePost false :
      List (OtaCall Bool))) ∧ SuccessVerified booted wholeUpload :=
  ⟨by rw [after_concat, step_lastChunk]; exact Or.inl (by decide +kernel),
    success_verified booted postsAfterUpload_wholeUpload⟩

/-- A request without a file, right after boot, is answered with success. -/
theorem not_successVerified_post :
    ¬ SuccessVerified (P := Bool) booted [.handlePost false] := by
  intro h
  obtain ⟨x, b, y, c, hv⟩ := h [] [] false rfl (Or.inl (by decide +kernel))
  exact absurd (List.eq_nil_of_suffix_nil hv.split) (List.cons_ne_nil _ _)

end Bench

end VehicleSpy.Firmware.OtaUpdateServer
