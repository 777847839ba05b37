import VehicleSpy.Text.Numbers

/-! # The OTA update server

The upload state machine, the partition check and the response handler. What the
adapters answer during one event is that event's environment; every call that the
server makes on them is listed in order, with the answers that decide the outcome.
`size_t` has the 32 bits it has on the device.
-/

namespace VehicleSpy.Firmware

open Text

namespace OtaConfig

def UPLOAD_TIMEOUT_MS : UInt32 := 300000
def VERIFY_CHUNK_SIZE : ℕ := 512
def REBOOT_FLUSH_COUNT : ℕ := 10
def FLASH_MAX_SIZE : ℕ := 1024 * 1024
def CMD_FLASH : ℤ := 0
def HTTP_OK : ℤ := 200
def HTTP_UNAUTHORIZED : ℤ := 401
def HTTP_FORBIDDEN : ℤ := 403
def HTTP_BAD_REQUEST : ℤ := 400
def OTA_SIG_HDR : Bytes := ascii "X-Firmware-Signature"

end OtaConfig

open OtaConfig

inductive OtaError
  | NONE
  | SODIUM_NOT_READY
  | BAD_SIGNATURE_HEADER
  | NO_SIGNATURE
  | UPDATE_BEGIN_FAILED
  | UPDATE_WRITE_FAILED
  | UPDATE_END_FAILED
  | UPDATE_ERROR
  | NO_OTA_PARTITION
  | SIGNATURE_VERIFY_FAILED
  | SET_BOOT_PARTITION_FAILED
  | UPLOAD_ABORTED
  | UPLOAD_TIMEOUT
  deriving DecidableEq, Repr

def errorMessage : OtaError → Bytes
  | .SODIUM_NOT_READY => ascii "sodium library not ready"
  | .BAD_SIGNATURE_HEADER => ascii "invalid signature header format"
  | .NO_SIGNATURE => ascii "missing signature header"
  | .UPDATE_BEGIN_FAILED => ascii "failed to begin update"
  | .UPDATE_WRITE_FAILED => ascii "firmware write failed"
  | .UPDATE_END_FAILED => ascii "failed to end update"
  | .UPDATE_ERROR => ascii "update error"
  | .NO_OTA_PARTITION => ascii "no OTA partition available"
  | .SIGNATURE_VERIFY_FAILED => ascii "signature verification failed"
  | .SET_BOOT_PARTITION_FAILED => ascii "failed to set boot partition"
  | .UPLOAD_ABORTED => ascii "upload aborted"
  | .UPLOAD_TIMEOUT => ascii "upload timeout"
  | .NONE => ascii "unknown error"

def httpCode : OtaError → ℤ
  | .NONE => HTTP_OK
  | .SIGNATURE_VERIFY_FAILED | .BAD_SIGNATURE_HEADER | .SODIUM_NOT_READY => HTTP_FORBIDDEN
  | .UPLOAD_TIMEOUT => HTTP_BAD_REQUEST
  | .NO_SIGNATURE => HTTP_UNAUTHORIZED
  | _ => HTTP_BAD_REQUEST

inductive UploadStatus
  | UPLOAD_FILE_START
  | UPLOAD_FILE_WRITE
  | UPLOAD_FILE_END
  | UPLOAD_FILE_ABORTED
  deriving DecidableEq, Repr

structure IHttpUpload where
  status : UploadStatus
  buf : Bytes := []
  currentSize : UInt32 := 0
  totalSize : UInt32 := 0
  deriving DecidableEq, Repr

/-- What the flash updater answers while one event runs. -/
structure IUpdate where
  begin : Bool := true
  write : UInt32 := 0
  endUpdate : Bool := true
  hasError : Bool := false
  deriving DecidableEq, Repr

/-- The partition adapter while one event runs. A successful read delivers the partition's bytes. -/
structure IPartition (P : Type) where
  getRunningPartition : Option P
  getNextUpdatePartition : Option P → Option P
  size : P → UInt32
  content : P → ℕ → Byte
  read : P → ℕ → ℕ → ℤ × Bytes
  getStatePartition : P → ℤ × ℤ := fun _ => (0, 0)
  setBootPartition : P → ℤ
  read_ok : ∀ p off n, (read p off n).1 = 0 →
    (read p off n).2 = (List.range' off n).map (content p)

/-- The crypto adapter: its answers may depend on all bytes it has hashed in this event. -/
structure ICrypto where
  signEd25519phInit : ℤ
  signEd25519phUpdate : Bytes → Bytes → ℤ
  signEd25519phFinalVerify : Bytes → Bytes → ℤ

/-- What surrounds one event: the request's signature header, the adapters and the clock. -/
structure OtaEnv (P : Type) where
  header : Bytes
  update : IUpdate
  partition : IPartition P
  crypto : ICrypto
  millis : UInt32

variable {P : Type}

/-- Calls on the adapters, on the HTTP server and on the callbacks. -/
inductive OtaCall (P : Type)
  | collectHeaders (headers : List Bytes)
  | on (uri : Bytes) (method : ℤ)
  | httpBegin
  | send (code : ℤ) (contentType content : Bytes)
  | clientSetNoDelay (nodelay : Bool)
  | clientFlush
  | clientStop
  | updateBegin (size : ℕ) (command : ℤ)
  | updateWrite (data : Bytes) (len : UInt32)
  | updateEnd (evenIfError : Bool)
  | updateAbort
  | read (part : P) (offset n : ℕ)
  | signEd25519phInit
  | signEd25519phUpdate (data : Bytes)
  | signEd25519phFinalVerify (sig : Bytes) (answer : ℤ)
  | setBootPartition (part : P) (answer : ℤ)
  | markAppValidCancelRollback
  | errorCallback (error : OtaError) (message : Bytes)
  | successCallback
  deriving DecidableEq, Repr

section Signature

def hexToByte (c : Byte) : Option Byte :=
  if 48 ≤ c ∧ c ≤ 57 then some (c - 48)
  else if 97 ≤ c ∧ c ≤ 102 then some (c - 97 + 10)
  else if 65 ≤ c ∧ c ≤ 70 then some (c - 65 + 10)
  else none

/-- The loop of `parseHexSig`: a bad digit leaves the bytes written so far in the buffer. -/
def writeHexSig : Bytes → Bytes → Bool × Bytes
  | hi :: lo :: hex, out =>
    match hexToByte hi, hexToByte lo with
    | some h, some l =>
      let (ok, rest) := writeHexSig hex out.tail
      (ok, (h <<< 4 ||| l) :: rest)
    | _, _ => (false, out)
  | _, out => (true, out)

def parseHexSig (hex out : Bytes) : Bool × Bytes :=
  if hex.length ≠ 128 then (false, out) else writeHexSig hex out

theorem length_writeHexSig (hex out : Bytes) (h : hex.length ≤ 2 * out.length) :
    (writeHexSig hex out).2.length = out.length := by
  fun_induction writeHexSig hex out with
  | case1 hi lo hex out h l hh hl ok rest heq ih =>
    rw [heq, List.length_tail] at ih
    simp only [List.length_cons] at h ⊢
    rw [ih (by omega)]
    omega
  | case2 => rfl
  | case3 => rfl

theorem length_parseHexSig {hex out : Bytes} (h : out.length = 64) :
    (parseHexSig hex out).2.length = 64 := by
  unfold parseHexSig
  split
  · exact h
  · rw [length_writeHexSig hex out (by omega), h]

end Signature

structure OtaUpdateServer where
  sodiumReady : Bool := false
  uploadStartTime : UInt32 := 0
  otaSig : Bytes
  otaSig_length : otaSig.length = 64
  otaHasSig : Bool := false
  otaErr : Bytes := []

namespace OtaUpdateServer

def setup (s : OtaUpdateServer) (sodiumInit : ℤ) : OtaUpdateServer × List (OtaCall P) :=
  ({ s with sodiumReady := decide (0 ≤ sodiumInit) || s.sodiumReady },
    [.collectHeaders [OTA_SIG_HDR], .on (ascii "/update") 1, .on (ascii "/update") 2, .httpBegin])

def markValidOnBoot (partition : IPartition P) : List (OtaCall P) :=
  match partition.getRunningPartition with
  | none => []
  | some running =>
    let (rc, state) := partition.getStatePartition running
    if rc = 0 ∧ state = 1 then [.markAppValidCancelRollback] else []

def handleGet : List (OtaCall P) :=
  [.send HTTP_OK (ascii "text/html")
    (ascii "<form method='POST' action='/update' enctype='multipart/form-data'>Firmware: " ++
      ascii "<input type='file' name='firmware'><br>Signature (hex): " ++
      ascii "<input name='X-Firmware-Signature'><br><input type='submit' value='Update'></form>")]

/-- The error that the response is classified as, from the text of the sticky error. -/
def classify (otaErr : Bytes) : OtaError :=
  let errLower := otaErr.map tolower
  if (findStr (ascii "signature") errLower).isSome then .SIGNATURE_VERIFY_FAILED
  else if (findStr (ascii "sodium") errLower).isSome then .SODIUM_NOT_READY
  else .UPDATE_ERROR

def handlePost (s : OtaUpdateServer) (hasError : Bool) : List (OtaCall P) :=
  if s.otaErr ≠ [] then
    let err := classify s.otaErr
    [.send (httpCode err) (ascii "text/plain") (ascii "OTA error: " ++ s.otaErr),
      .errorCallback err s.otaErr]
  else if hasError then
    [.send HTTP_BAD_REQUEST (ascii "text/plain") (ascii "OTA error: update failed"),
      .errorCallback .UPDATE_ERROR (ascii "update failed")]
  else
    [.clientSetNoDelay true,
      .send HTTP_OK (ascii "text/plain") (ascii "Update Success! Rebooting...")] ++
      List.replicate REBOOT_FLUSH_COUNT .clientFlush ++ [.clientStop, .successCallback]

def reportError (s : OtaUpdateServer) (err : OtaError) : OtaUpdateServer × List (OtaCall P) :=
  ({ s with otaErr := errorMessage err }, [.errorCallback err (errorMessage err)])

/-- The hash loop of `verifyPartition` from an offset on, with the bytes hashed so far. Offsets
stay within the image size, so the 32-bit sums of the source do not wrap. -/
def hashFrom (env : OtaEnv P) (part : P) (size : ℕ) (off : ℕ) (hashed : Bytes) :
    Option Bytes × List (OtaCall P) :=
  if off < size then
    let n := min (size - off) VERIFY_CHUNK_SIZE
    let (rc, chunk) := env.partition.read part off n
    if rc ≠ 0 then (none, [.read part off n])
    else if env.crypto.signEd25519phUpdate hashed chunk ≠ 0 then
      (none, [.read part off n, .signEd25519phUpdate chunk])
    else
      let (res, calls) := hashFrom env part size (off + n) (hashed ++ chunk)
      (res, .read part off n :: .signEd25519phUpdate chunk :: calls)
  else (some hashed, [])
termination_by size - off
decreasing_by
  simp only [VERIFY_CHUNK_SIZE]
  omega

def verifyPartition (env : OtaEnv P) (part : P) (size : UInt32) (sig : Bytes) :
    Bool × List (OtaCall P) :=
  if size > env.partition.size part then (false, [])
  else if env.crypto.signEd25519phInit ≠ 0 then (false, [.signEd25519phInit])
  else
    match hashFrom env part size.toNat 0 [] with
    | (none, calls) => (false, .signEd25519phInit :: calls)
    | (some hashed, calls) =>
      let answer := env.crypto.signEd25519phFinalVerify hashed sig
      (answer = 0, .signEd25519phInit :: calls ++ [.signEd25519phFinalVerify sig answer])

/-- An error report after calls that have already been made. -/
def failAfter (s : OtaUpdateServer) (calls : List (OtaCall P)) (err : OtaError) :
    OtaUpdateServer × List (OtaCall P) :=
  ((s.reportError err : OtaUpdateServer × List (OtaCall P)).1, calls ++ (s.reportError err).2)

def handleStart (s : OtaUpdateServer) (env : OtaEnv P) : OtaUpdateServer × List (OtaCall P) :=
  let s := { s with otaErr := [], otaHasSig := false, uploadStartTime := env.millis }
  if !s.sodiumReady then s.reportError .SODIUM_NOT_READY
  else
    let s' := { s with
      otaSig := (parseHexSig env.header s.otaSig).2
      otaSig_length := length_parseHexSig s.otaSig_length }
    if !(parseHexSig env.header s.otaSig).1 then s'.reportError .BAD_SIGNATURE_HEADER
    else
      let s' := { s' with otaHasSig := true }
      let begin : List (OtaCall P) := [.updateBegin FLASH_MAX_SIZE CMD_FLASH]
      if !env.update.begin then s'.failAfter begin .UPDATE_BEGIN_FAILED else (s', begin)

def handleWrite (s : OtaUpdateServer) (env : OtaEnv P) (upload : IHttpUpload) :
    OtaUpdateServer × List (OtaCall P) :=
  if env.millis - s.uploadStartTime > UPLOAD_TIMEOUT_MS then
    s.failAfter [.updateAbort] .UPLOAD_TIMEOUT
  else
    let write : List (OtaCall P) := [.updateWrite upload.buf upload.currentSize]
    if env.update.write ≠ upload.currentSize then s.failAfter write .UPDATE_WRITE_FAILED
    else (s, write)

def handleEnd (s : OtaUpdateServer) (env : OtaEnv P) (upload : IHttpUpload) :
    OtaUpdateServer × List (OtaCall P) :=
  let ended : List (OtaCall P) := [.updateEnd true]
  if !env.update.endUpdate then s.failAfter ended .UPDATE_END_FAILED
  else if env.update.hasError then s.failAfter ended .UPDATE_ERROR
  else
    match env.partition.getNextUpdatePartition env.partition.getRunningPartition with
    | none => s.failAfter ended .NO_OTA_PARTITION
    | some target =>
      let (verified, calls) := verifyPartition env target upload.totalSize s.otaSig
      if !verified then s.failAfter (ended ++ calls ++ [.updateAbort]) .SIGNATURE_VERIFY_FAILED
      else
        let answer := env.partition.setBootPartition target
        let selected := ended ++ calls ++ [.setBootPartition target answer]
        if answer ≠ 0 then s.failAfter selected .SET_BOOT_PARTITION_FAILED else (s, selected)

def handleUpload (s : OtaUpdateServer) (env : OtaEnv P) (upload : IHttpUpload) :
    OtaUpdateServer × List (OtaCall P) :=
  match upload.status with
  | .UPLOAD_FILE_START => s.handleStart env
  | .UPLOAD_FILE_WRITE => if s.otaErr = [] then s.handleWrite env upload else (s, [])
  | .UPLOAD_FILE_END => if s.otaErr = [] then s.handleEnd env upload else (s, [])
  | .UPLOAD_FILE_ABORTED => s.failAfter [.updateAbort] .UPLOAD_ABORTED

end OtaUpdateServer

/-- The entry points that the sketch and the web server call. -/
inductive OtaEvent (P : Type)
  | setup (sodiumInit : ℤ)
  | markValidOnBoot (partition : IPartition P)
  | handleGet
  | handlePost (hasError : Bool)
  | handleUpload (env : OtaEnv P) (upload : IHttpUpload)

namespace OtaUpdateServer

def step (s : OtaUpdateServer) : OtaEvent P → OtaUpdateServer × List (OtaCall P)
  | .setup sodiumInit => s.setup sodiumInit
  | .markValidOnBoot partition => (s, markValidOnBoot partition)
  | .handleGet => (s, handleGet)
  | .handlePost hasError => (s, s.handlePost hasError)
  | .handleUpload env upload => s.handleUpload env upload

end OtaUpdateServer

end VehicleSpy.Firmware
