import CipherMesh.Sync.Revocation

/-!
# Revocations that do not verify

What a list of revocations says about a device is compared with what its authentic part
says.  A forged revocation never changes the answer to another one, but where it names a
certified device it turns the answer into an error.
-/

namespace CipherMesh

open Foundation

variable {P : Primitives}

/-- The revocations in the list that verify. -/
def authenticRevocations (accountPublicKey : P.IdentityKey)
    (revocations : List (DeviceRevocation P)) : List (DeviceRevocation P) :=
  revocations.filter fun revocation =>
    (verifyDeviceRevocation accountPublicKey revocation).isOk

/-- The revocation is about the certified device. -/
def DeviceRevocation.Names (revocation : DeviceRevocation P)
    (certificate : DeviceCertificate P) : Prop :=
  revocation.accountId = certificate.accountId ∧ revocation.deviceId = certificate.deviceId

/-- Every revocation that is about the certified device verifies. -/
def Genuine (accountPublicKey : P.IdentityKey) (certificate : DeviceCertificate P)
    (revocations : List (DeviceRevocation P)) : Prop :=
  ∀ revocation ∈ revocations, revocation.Names certificate →
    verifyDeviceRevocation accountPublicKey revocation = .ok ()

variable {accountPublicKey : P.IdentityKey} {certificate : DeviceCertificate P}
variable {revocations order : List (DeviceRevocation P)} {revocation : DeviceRevocation P}
variable {certificates : List (DeviceCertificate P)} {error : CryptoError}

/-! ## Errors -/

theorem verifyDeviceCertificate_error
    (failed : verifyDeviceCertificate accountPublicKey certificate = .error error) :
    error = .signatureVerification := by
  rw [verifyDeviceCertificate_eq] at failed
  exact error_of_check failed

theorem verifyDeviceRevocation_error
    (failed : verifyDeviceRevocation accountPublicKey revocation = .error error) :
    error = .signatureVerification := by
  rw [verifyDeviceRevocation_eq] at failed
  exact error_of_check failed

theorem isDeviceCurrentlyAuthorized_of_uncertified
    (uncertified : verifyDeviceCertificate accountPublicKey certificate = .error error) :
    isDeviceCurrentlyAuthorized accountPublicKey certificate revocations = .error error := by
  rw [isDeviceCurrentlyAuthorized, uncertified]
  rfl

theorem isDeviceCurrentlyAuthorized_error
    (failed : isDeviceCurrentlyAuthorized accountPublicKey certificate revocations =
      .error error) : error = .signatureVerification := by
  cases certified : verifyDeviceCertificate accountPublicKey certificate with
  | error other =>
      rw [isDeviceCurrentlyAuthorized_of_uncertified certified] at failed
      cases failed
      exact verifyDeviceCertificate_error certified
  | ok =>
      rw [isDeviceCurrentlyAuthorized_of_certified certified] at failed
      split at failed
      · next revocation _ =>
          cases verified : verifyDeviceRevocation accountPublicKey revocation with
          | ok => simp [verified, Except.map] at failed
          | error other =>
              simp only [verified, Except.map, Except.error.injEq] at failed
              rw [← failed]
              exact verifyDeviceRevocation_error verified
      · cases failed

/-- One device that cannot be checked is enough to have no list of active ones. -/
theorem activeDeviceCertificates_of_error (member : certificate ∈ certificates)
    (failed : isDeviceCurrentlyAuthorized accountPublicKey certificate revocations =
      .error error) :
    activeDeviceCertificates accountPublicKey revocations certificates =
      .error .signatureVerification := by
  induction certificates with
  | nil => cases member
  | cons head tail tailIH =>
      rw [activeDeviceCertificates]
      cases checked : isDeviceCurrentlyAuthorized accountPublicKey head revocations with
      | error other =>
          rw [isDeviceCurrentlyAuthorized_error checked]
          rfl
      | ok authorized =>
          rcases List.mem_cons.mp member with rfl | inTail
          · rw [checked] at failed
            cases failed
          · rw [tailIH inTail]
            rfl

theorem activeDeviceCertificates_congr {first second : List (DeviceRevocation P)}
    (same : ∀ certificate ∈ certificates,
      isDeviceCurrentlyAuthorized accountPublicKey certificate first =
        isDeviceCurrentlyAuthorized accountPublicKey certificate second) :
    activeDeviceCertificates accountPublicKey first certificates =
      activeDeviceCertificates accountPublicKey second certificates := by
  induction certificates with
  | nil => rfl
  | cons head tail tailIH =>
      rw [activeDeviceCertificates, activeDeviceCertificates, same head List.mem_cons_self,
        tailIH fun certificate inTail => same certificate (List.mem_cons_of_mem _ inTail)]

/-! ## One device -/

theorem mem_authenticRevocations :
    revocation ∈ authenticRevocations accountPublicKey revocations ↔
      revocation ∈ revocations ∧
        verifyDeviceRevocation accountPublicKey revocation = .ok () := by
  rw [authenticRevocations, List.mem_filter]
  cases verifyDeviceRevocation accountPublicKey revocation with
  | ok => simp [Except.isOk, Except.toBool]
  | error => simp [Except.isOk, Except.toBool]

theorem names_of_decisive
    (decisive : decisiveRevocation certificate revocations = some revocation) :
    revocation.Names certificate := by
  simpa [DeviceRevocation.Names] using List.find?_some decisive

/-- Where the revocations of a device are genuine, it is authorized if there is none. -/
theorem isDeviceCurrentlyAuthorized_of_genuine
    (certified : verifyDeviceCertificate accountPublicKey certificate = .ok ())
    (genuine : Genuine accountPublicKey certificate revocations) (unnamed : Bool)
    (unnamed_iff : unnamed = true ↔
      ∀ revocation ∈ revocations, ¬revocation.Names certificate) :
    isDeviceCurrentlyAuthorized accountPublicKey certificate revocations = .ok unnamed := by
  rw [isDeviceCurrentlyAuthorized_of_certified certified]
  cases decisive : decisiveRevocation certificate revocations with
  | none =>
      have none := List.find?_eq_none.mp decisive
      have isUnnamed : unnamed = true := by
        apply unnamed_iff.mpr
        intro revocation member names
        exact none revocation member (by simpa [DeviceRevocation.Names] using names)
      rw [isUnnamed]
  | some revocation =>
      have member := List.mem_of_find?_eq_some decisive
      have names := names_of_decisive decisive
      have isNamed : unnamed = false := by
        rw [← Bool.not_eq_true, unnamed_iff]
        exact fun none => none revocation member names
      simp [genuine revocation member names, isNamed, Except.map]

theorem genuine_authenticRevocations :
    Genuine accountPublicKey certificate (authenticRevocations accountPublicKey revocations) :=
  fun _ member _ => (mem_authenticRevocations.mp member).2

/-- The authentic revocations leave no error. -/
theorem exists_authorized_authentic (revocations : List (DeviceRevocation P))
    (certified : verifyDeviceCertificate accountPublicKey certificate = .ok ()) :
    ∃ authorized, isDeviceCurrentlyAuthorized accountPublicKey certificate
      (authenticRevocations accountPublicKey revocations) = .ok authorized := by
  classical
  exact ⟨_, isDeviceCurrentlyAuthorized_of_genuine certified genuine_authenticRevocations _
    decide_eq_true_iff⟩

/-- A forged revocation that comes first decides, with an error. -/
theorem isDeviceCurrentlyAuthorized_of_forged
    (certified : verifyDeviceCertificate accountPublicKey certificate = .ok ())
    (names : revocation.Names certificate)
    (forged : verifyDeviceRevocation accountPublicKey revocation ≠ .ok ()) :
    isDeviceCurrentlyAuthorized accountPublicKey certificate (revocation :: revocations) =
      .error .signatureVerification := by
  have decides : decisiveRevocation certificate (revocation :: revocations) = some revocation :=
    List.find?_cons_of_pos (by simpa [DeviceRevocation.Names] using names)
  rw [isDeviceCurrentlyAuthorized_of_certified certified, decides]
  cases verified : verifyDeviceRevocation accountPublicKey revocation with
  | ok => exact absurd verified forged
  | error error => simp [verifyDeviceRevocation_error verified, verified, Except.map]

/-- Genuine revocations answer in every order what the authentic ones do. -/
theorem isDeviceCurrentlyAuthorized_perm (perm : order.Perm revocations)
    (genuine : verifyDeviceCertificate accountPublicKey certificate = .ok () →
      Genuine accountPublicKey certificate revocations) :
    isDeviceCurrentlyAuthorized accountPublicKey certificate order =
      isDeviceCurrentlyAuthorized accountPublicKey certificate
        (authenticRevocations accountPublicKey revocations) := by
  classical
  cases certified : verifyDeviceCertificate accountPublicKey certificate with
  | error error =>
      rw [isDeviceCurrentlyAuthorized_of_uncertified certified,
        isDeviceCurrentlyAuthorized_of_uncertified certified]
  | ok =>
      have genuine := genuine certified
      have reordered : Genuine accountPublicKey certificate order :=
        fun revocation member => genuine revocation (perm.mem_iff.mp member)
      rw [isDeviceCurrentlyAuthorized_of_genuine certified reordered _ decide_eq_true_iff]
      refine (isDeviceCurrentlyAuthorized_of_genuine certified genuine_authenticRevocations _
        ?_).symm
      rw [decide_eq_true_iff]
      constructor
      · intro unnamed revocation member
        exact unnamed revocation (perm.mem_iff.mpr (mem_authenticRevocations.mp member).1)
      · intro unnamed revocation member names
        have original := perm.mem_iff.mp member
        exact unnamed revocation
          (mem_authenticRevocations.mpr ⟨original, genuine revocation original names⟩) names

/-- The forged revocations influence the answer about a device in some order exactly if one
of them names it. -/
theorem authorized_authentic_iff :
    (∀ order : List (DeviceRevocation P), order.Perm revocations →
      isDeviceCurrentlyAuthorized accountPublicKey certificate order =
        isDeviceCurrentlyAuthorized accountPublicKey certificate
          (authenticRevocations accountPublicKey revocations)) ↔
      (verifyDeviceCertificate accountPublicKey certificate = .ok () →
        Genuine accountPublicKey certificate revocations) := by
  constructor
  · intro same certified revocation member names
    by_contra forged
    obtain ⟨before, after, rfl⟩ := List.append_of_mem member
    have answer := same (revocation :: (before ++ after)) List.perm_middle.symm
    obtain ⟨authorized, authentic⟩ :=
      exists_authorized_authentic (before ++ revocation :: after) certified
    rw [isDeviceCurrentlyAuthorized_of_forged certified names forged, authentic] at answer
    cases answer
  · exact fun genuine order perm => isDeviceCurrentlyAuthorized_perm perm genuine

/-- Whatever the forged revocations are, the answer is that of the authentic ones or an
error. -/
theorem authorized_authentic_or_error (perm : order.Perm revocations) :
    isDeviceCurrentlyAuthorized accountPublicKey certificate order =
        isDeviceCurrentlyAuthorized accountPublicKey certificate
          (authenticRevocations accountPublicKey revocations) ∨
      isDeviceCurrentlyAuthorized accountPublicKey certificate order =
        .error .signatureVerification := by
  classical
  cases certified : verifyDeviceCertificate accountPublicKey certificate with
  | error error =>
      left
      rw [isDeviceCurrentlyAuthorized_of_uncertified certified,
        isDeviceCurrentlyAuthorized_of_uncertified certified]
  | ok =>
      cases decisive : decisiveRevocation certificate order with
      | none =>
          left
          apply isDeviceCurrentlyAuthorized_perm perm
          intro _ revocation member names
          have unmatched := List.find?_eq_none.mp decisive revocation (perm.mem_iff.mpr member)
          exact absurd names (by simpa [DeviceRevocation.Names] using unmatched)
      | some revocation =>
          have member := perm.mem_iff.mp (List.mem_of_find?_eq_some decisive)
          rw [isDeviceCurrentlyAuthorized_of_certified certified, decisive]
          cases verified : verifyDeviceRevocation accountPublicKey revocation with
          | error error =>
              right
              simp [verified, verifyDeviceRevocation_error verified, Except.map]
          | ok =>
              -- The deciding revocation is among the authentic ones.
              left
              have authentic := mem_authenticRevocations.mpr ⟨member, verified⟩
              rw [isDeviceCurrentlyAuthorized_of_genuine certified genuine_authenticRevocations
                false]
              · simp [verified, Except.map]
              · simp only [Bool.false_eq_true, false_iff]
                exact fun none => none revocation authentic (names_of_decisive decisive)

/-! ## The devices of an account -/

/-- The forged revocations influence the list of active devices in some order exactly if all
certificates verify and one of their devices is named. -/
theorem active_authentic_iff :
    (∀ order : List (DeviceRevocation P), order.Perm revocations →
      activeDeviceCertificates accountPublicKey order certificates =
        activeDeviceCertificates accountPublicKey
          (authenticRevocations accountPublicKey revocations) certificates) ↔
      ((∀ certificate ∈ certificates,
          verifyDeviceCertificate accountPublicKey certificate = .ok ()) →
        ∀ certificate ∈ certificates,
          Genuine accountPublicKey certificate revocations) := by
  classical
  constructor
  · intro same certified certificate inList revocation member names
    by_contra forged
    obtain ⟨before, after, rfl⟩ := List.append_of_mem member
    have answer := same (revocation :: (before ++ after)) List.perm_middle.symm
    rw [activeDeviceCertificates_of_error inList
      (isDeviceCurrentlyAuthorized_of_forged (certified certificate inList) names forged),
      activeDeviceCertificates_of_verified _ (fun _ => decide_eq_true_iff) certified
        fun revocation authentic => (mem_authenticRevocations.mp authentic).2] at answer
    cases answer
  · intro genuine order perm
    by_cases certified : ∀ certificate ∈ certificates,
      verifyDeviceCertificate accountPublicKey certificate = .ok ()
    · apply activeDeviceCertificates_congr
      intro certificate inList
      exact isDeviceCurrentlyAuthorized_perm perm fun _ => genuine certified certificate inList
    · -- A certificate that does not verify is an error with and without the forged ones.
      push Not at certified
      obtain ⟨certificate, inList, uncertified⟩ := certified
      cases checked : verifyDeviceCertificate accountPublicKey certificate with
      | ok => exact absurd checked uncertified
      | error error =>
          rw [activeDeviceCertificates_of_error inList
              (isDeviceCurrentlyAuthorized_of_uncertified checked),
            activeDeviceCertificates_of_error inList
              (isDeviceCurrentlyAuthorized_of_uncertified checked)]

theorem active_authentic_or_error (perm : order.Perm revocations) :
    activeDeviceCertificates accountPublicKey order certificates =
        activeDeviceCertificates accountPublicKey
          (authenticRevocations accountPublicKey revocations) certificates ∨
      activeDeviceCertificates accountPublicKey order certificates =
        .error .signatureVerification := by
  by_cases same : ∀ certificate ∈ certificates,
    isDeviceCurrentlyAuthorized accountPublicKey certificate order =
      isDeviceCurrentlyAuthorized accountPublicKey certificate
        (authenticRevocations accountPublicKey revocations)
  · exact .inl (activeDeviceCertificates_congr same)
  · push Not at same
    obtain ⟨certificate, inList, differs⟩ := same
    have failed := (authorized_authentic_or_error perm).resolve_left differs
    exact .inr (activeDeviceCertificates_of_error inList failed)

/-- Forged revocations influence what the list says, in some order, exactly if one of them
names a device that is asked about and whose certificate verifies.  Their influence is at
most that the answer becomes an error. -/
theorem unauthentic_revocations_influence (accountPublicKey : P.IdentityKey)
    (certificate : DeviceCertificate P) (certificates : List (DeviceCertificate P))
    (revocations : List (DeviceRevocation P)) :
    ((∀ order : List (DeviceRevocation P), order.Perm revocations →
        isDeviceCurrentlyAuthorized accountPublicKey certificate order =
          isDeviceCurrentlyAuthorized accountPublicKey certificate
            (authenticRevocations accountPublicKey revocations)) ↔
      (verifyDeviceCertificate accountPublicKey certificate = .ok () →
        Genuine accountPublicKey certificate revocations)) ∧
    ((∀ order : List (DeviceRevocation P), order.Perm revocations →
        activeDeviceCertificates accountPublicKey order certificates =
          activeDeviceCertificates accountPublicKey
            (authenticRevocations accountPublicKey revocations) certificates) ↔
      ((∀ certificate ∈ certificates,
          verifyDeviceCertificate accountPublicKey certificate = .ok ()) →
        ∀ certificate ∈ certificates, Genuine accountPublicKey certificate revocations)) ∧
    ∀ order : List (DeviceRevocation P), order.Perm revocations →
      (isDeviceCurrentlyAuthorized accountPublicKey certificate order =
          isDeviceCurrentlyAuthorized accountPublicKey certificate
            (authenticRevocations accountPublicKey revocations) ∨
        isDeviceCurrentlyAuthorized accountPublicKey certificate order =
          .error .signatureVerification) ∧
      (activeDeviceCertificates accountPublicKey order certificates =
          activeDeviceCertificates accountPublicKey
            (authenticRevocations accountPublicKey revocations) certificates ∨
        activeDeviceCertificates accountPublicKey order certificates =
          .error .signatureVerification) :=
  ⟨authorized_authentic_iff, active_authentic_iff, fun _ perm =>
    ⟨authorized_authentic_or_error perm, active_authentic_or_error perm⟩⟩

namespace Symbolic

/-- A revocation of the phone that nobody has signed. -/
def forgedRevocation : DeviceRevocation primitives :=
  { phoneRevocation with signature := ⟨[], []⟩ }

theorem forgedRevocation_fails :
    verifyDeviceRevocation (P := primitives) (Bytes.ofText "account") forgedRevocation =
        .error .signatureVerification ∧
      isDeviceCurrentlyAuthorized (P := primitives) (Bytes.ofText "account")
        (deviceCertificate "phone") [forgedRevocation] = .error .signatureVerification ∧
      isDeviceCurrentlyAuthorized (P := primitives) (Bytes.ofText "account")
        (deviceCertificate "phone")
        (authenticRevocations (Bytes.ofText "account") [forgedRevocation]) = .ok true ∧
      activeDeviceCertificates (P := primitives) (Bytes.ofText "account") [forgedRevocation]
        [deviceCertificate "laptop", deviceCertificate "phone"] =
          .error .signatureVerification ∧
      isDeviceCurrentlyAuthorized (P := primitives) (Bytes.ofText "account")
        (deviceCertificate "phone") [phoneRevocation, forgedRevocation] = .ok false ∧
      isDeviceCurrentlyAuthorized (P := primitives) (Bytes.ofText "account")
        (deviceCertificate "phone") [forgedRevocation, phoneRevocation] =
          .error .signatureVerification := by
  decide +kernel

end Symbolic

end CipherMesh
