import Kaonic.Base.FileTasks
import Kaonic.Base.Text
import Kaonic.Base.Traverse

/-!
# The local root CA

How the gateway keeps its root CA and the certificates that the CA signs. The files are prepared at
every start, and again whenever the system page is shown, beside whatever else is running.
-/

namespace Kaonic.Gateway.RootCa
open Text FileTasks

/-! ### Names -/

/-- `read_to_string` of a file that holds one name, as far as the name is one. -/
def readTrimmed (file : Option (List Char)) : Option (List Char) :=
  (file.map trim).filter fun value => !value.isEmpty

def readDeviceSerial (file : Option (List Char)) : Option (List Char) := readTrimmed file

def readHostname (file : Option (List Char)) : Option (List Char) :=
  (readTrimmed file).filter fun value => value.all fun ch => ch.isAlphanum || ch == '-' || ch == '.'

def deviceIdentity (serial hostname : Option (List Char)) : List Char :=
  ((readDeviceSerial serial).or (readHostname hostname)).getD "kaonic-gateway".toList

def rootCaCommonName (deviceSerial : Option (List Char)) : List Char :=
  match readTrimmed deviceSerial with
  | some serial => "Kaonic Local Root CA ".toList ++ serial
  | none => "Kaonic Local Root CA".toList

def serviceCommonName (serviceName deviceIdentity : List Char) : List Char :=
  serviceName ++ ' ' :: deviceIdentity

def serviceSubjectAltNames (hostname : Option (List Char)) : List (List Char) :=
  let names := ["localhost".toList, "127.0.0.1".toList, "192.168.10.1".toList]
  match readHostname hostname with
  | none => names
  | some hostname =>
    let names := if hostname ∈ names then names else names ++ [hostname]
    if ".local".toList <:+ hostname then names
    else
      let localName := hostname ++ ".local".toList
      if localName ∈ names then names else names ++ [localName]

/-! ### Certificates -/

inductive KeyUsagePurpose where
  | digitalSignature | keyEncipherment | keyCertSign | crlSign
  deriving DecidableEq

inductive ExtendedKeyUsagePurpose where
  | serverAuth
  deriving DecidableEq

/-- `isCa` holds the path length of a CA. -/
structure CertificateParams where
  commonName : List Char
  organizationName : String := "Beechat Network Systems Ltd"
  notBefore : Nat × Nat × Nat := (2024, 1, 1)
  notAfter : Nat × Nat × Nat
  serialNumber : List UInt8
  subjectAltNames : List (List Char) := []
  isCa : Option Nat := none
  useAuthorityKeyIdentifier : Bool := true
  keyUsages : List KeyUsagePurpose
  extendedKeyUsages : List ExtendedKeyUsagePurpose := []
  deriving DecidableEq

/-- A certificate with whose key it is and whose key has signed it, under which name. -/
structure Certificate (K : Type) where
  params : CertificateParams
  subjectKey : K
  issuerName : List Char
  issuerKey : K
  signature : Nat

/-- The crates for keys and certificates. `random` and the signatures take the draws of the system's
generator, and `sanTypes` are the names as `Debug` prints them. -/
structure Crypto where
  SigningKey : Type
  KeyPair : Type
  sha256 : List UInt8 → List UInt8
  sha256_length : ∀ bytes, (sha256 bytes).length = 32
  fromSlice : List UInt8 → Option SigningKey
  random : Nat → SigningKey
  toPkcs8Der : SigningKey → Except String (List UInt8)
  tryFrom : List UInt8 → Except String KeyPair
  serializedDer : KeyPair → List UInt8
  serializePem : KeyPair → List UInt8
  sanTypes : List (List Char) → Except String (List (List Char))
  refuses : CertificateParams → Option String
  pem : Certificate KeyPair → List UInt8

/-- A serial number is a positive number of 16 bytes. -/
def PositiveSerial (serial : List UInt8) : Prop :=
  serial.length = 16 ∧ (∃ first rest, serial = first :: rest ∧ first < 128) ∧ ∃ byte ∈ serial, byte ≠ 0

section

variable (c : Crypto)

def derivedSerialNumber (label : List Char) (material : List UInt8) (contextParts : List (List UInt8)) :
    List UInt8 :=
  let input := toUtf8 label ++ 0 :: material ++ contextParts.flatMap fun part => 0 :: part
  let serial := ((c.sha256 input).take 16).modify 0 (· &&& 0x7f)
  if serial.all (· == 0) then serial.set 15 1 else serial

theorem derivedSerialNumber_positive (label : List Char) (material : List UInt8)
    (contextParts : List (List UInt8)) :
    PositiveSerial (derivedSerialNumber c label material contextParts) := by
  unfold derivedSerialNumber
  dsimp only
  generalize toUtf8 label ++ 0 :: material ++ contextParts.flatMap (fun part => 0 :: part) = input
  have length : ((c.sha256 input).take 16).length = 16 := by
    rw [List.length_take, c.sha256_length]
    rfl
  obtain ⟨first, rest, shape⟩ := List.exists_cons_of_length_pos (by omega :
    0 < ((c.sha256 input).take 16).length)
  rw [shape, List.length_cons] at length
  have low : first &&& 0x7f < 128 := by
    rw [UInt8.lt_iff_toNat_lt, UInt8.toNat_and]
    exact Nat.lt_of_le_of_lt Nat.and_le_right (by decide)
  rw [shape, List.modify_zero_cons]
  split
  · refine ⟨by simpa using length, ?_, 1, ?_, by decide⟩
    · exact ⟨first &&& 0x7f, rest.set 14 1, rfl, low⟩
    · rw [List.mem_iff_getElem]
      exact ⟨15, by simp; omega, by simp⟩
  · rename_i nonzero
    refine ⟨by simpa using length, ⟨_, _, rfl, low⟩, ?_⟩
    simp only [List.all_cons, Bool.and_eq_true, not_and_or, beq_iff_eq, List.all_eq_true,
      not_forall] at nonzero
    simpa using nonzero

/-! ### Keys -/

def deriveSigningKey : Nat → List UInt8 → Except String c.SigningKey
  | 0, _ => .error "derive deterministic P-256 root CA key"
  | attempts + 1, material =>
    match c.fromSlice material with
    | some signingKey => .ok signingKey
    | none => deriveSigningKey attempts (c.sha256 material)

def deterministicP256SigningKey (seedPhrase : List Char) : Except String c.SigningKey :=
  deriveSigningKey c 8 (c.sha256 (toUtf8 seedPhrase))

def isLegacyRootCaKeyDer (caSeedPhrase : List Char) (keyDer : List UInt8) : Bool :=
  match deterministicP256SigningKey c caSeedPhrase with
  | .error _ => false
  | .ok legacySigningKey =>
    match c.toPkcs8Der legacySigningKey with
    | .error _ => false
    | .ok legacyKeyDer => keyDer == legacyKeyDer

def generateSecureRootCaKeyDer (random : Nat) : Except String (List UInt8) :=
  (c.toPkcs8Der (c.random random)).mapError fun err => "encode local root CA key: " ++ err

/-- The keys and the certificate of a CA, with the texts of its files. -/
structure RootCaArtifacts where
  cert : Certificate c.KeyPair
  keyPair : c.KeyPair
  certPem : List UInt8
  keyDer : List UInt8

def rootCaParams (keyDer : List UInt8) (deviceSerial : Option (List Char)) : CertificateParams where
  commonName := rootCaCommonName deviceSerial
  notAfter := (2044, 1, 1)
  serialNumber := derivedSerialNumber c "root-ca-v4".toList keyDer
    [toUtf8 (rootCaCommonName deviceSerial)]
  isCa := some 0
  keyUsages := [.keyCertSign, .crlSign]

def generateRootCaArtifacts (keyDer : List UInt8) (deviceSerial : Option (List Char))
    (signature : Nat) : Except String (RootCaArtifacts c) :=
  match c.tryFrom keyDer with
  | .error err => .error ("load local root CA key: " ++ err)
  | .ok keyPair =>
    let params := rootCaParams c keyDer deviceSerial
    match c.refuses params with
    | some err => .error ("generate local root CA certificate: " ++ err)
    | none =>
      let cert : Certificate c.KeyPair := ⟨params, keyPair, params.commonName, keyPair, signature⟩
      .ok { cert, keyPair, certPem := c.pem cert, keyDer }

/-- What a task reads beside the files it keeps: the generator's draws and the names of the device. -/
structure Draw where
  random : Nat := 0
  signature : Nat := 0
  serviceSignature : Nat := 0
  serial : Option (List Char) := none
  hostname : Option (List Char) := none

def loadOrCreateRootCaArtifacts (caSeedPhrase : List Char) (existing : Option (List UInt8))
    (draw : Draw) : Except String (RootCaArtifacts c) :=
  let keyDer := match existing with
    | some existing =>
      if !existing.isEmpty && !isLegacyRootCaKeyDer c caSeedPhrase existing then Except.ok existing
      else generateSecureRootCaKeyDer c draw.random
    | none => generateSecureRootCaKeyDer c draw.random
  keyDer >>= fun keyDer =>
    generateRootCaArtifacts c keyDer (readDeviceSerial draw.serial) draw.signature

/-! ### Services -/

inductive Service where
  | gateway
  | plugin (dir pluginId : List Char)
  deriving DecidableEq

inductive CertPath where
  | rootCert
  | rootKey
  | gatewayCert
  | gatewayKey
  | pluginCert (dir : List Char)
  | pluginKey (dir : List Char)
  deriving DecidableEq

namespace Service

def certPath : Service → CertPath
  | gateway => .gatewayCert
  | plugin dir _ => .pluginCert dir

def keyPath : Service → CertPath
  | gateway => .gatewayKey
  | plugin dir _ => .pluginKey dir

def serialLabel : Service → List Char
  | gateway => "gateway-tls-v2".toList
  | plugin _ pluginId => "plugin-tls-v1:".toList ++ pluginId

def name : Service → List Char
  | gateway => "kaonic-gateway".toList
  | plugin _ pluginId => pluginId

def seed (caSeedPhrase deviceIdentity : List Char) : Service → List Char
  | gateway => caSeedPhrase ++ "|gateway-tls|".toList ++ deviceIdentity
  | plugin _ pluginId =>
    caSeedPhrase ++ "|plugin-tls|".toList ++ deviceIdentity ++ '|' :: pluginId

def kind : Service → String
  | gateway => "gateway"
  | plugin _ _ => "plugin"

end Service

/-- `deterministic_gateway_tls_key_pair` and `deterministic_plugin_tls_key_pair`. -/
def deterministicTlsKeyPair (caSeedPhrase : List Char) (service : Service)
    (deviceIdentity : List Char) : Except String c.KeyPair := do
  let signingKey ← deterministicP256SigningKey c (service.seed caSeedPhrase deviceIdentity)
  let keyDer ← (c.toPkcs8Der signingKey).mapError fun err =>
    "encode deterministic " ++ service.kind ++ " TLS key: " ++ err
  (c.tryFrom keyDer).mapError fun err =>
    "load deterministic " ++ service.kind ++ " TLS key: " ++ err

def serviceParams (serialLabel commonName : List Char) (keyPair : c.KeyPair)
    (sanTypes : List (List Char)) : CertificateParams where
  commonName
  notAfter := (2034, 1, 1)
  serialNumber := derivedSerialNumber c serialLabel (c.serializedDer keyPair)
    [toUtf8 commonName, toUtf8 (['|'].intercalate sanTypes)]
  subjectAltNames := sanTypes
  keyUsages := [.digitalSignature, .keyEncipherment]
  extendedKeyUsages := [.serverAuth]

def generateServiceTlsMaterial (rootCa : RootCaArtifacts c) (serialLabel commonName : List Char)
    (keyPair : c.KeyPair) (hostname : Option (List Char)) (signature : Nat) :
    Except String (Certificate c.KeyPair) :=
  match c.sanTypes (serviceSubjectAltNames hostname) with
  | .error err => .error ("build gateway TLS SANs: " ++ err)
  | .ok sanTypes =>
    let params := serviceParams c serialLabel commonName keyPair sanTypes
    match c.refuses params with
    | some err => .error ("generate gateway TLS certificate: " ++ err)
    | none => .ok ⟨params, keyPair, rootCa.cert.params.commonName, rootCa.keyPair, signature⟩

/-! ### The files -/

inductive Call where
  | ensureRootCaFiles
  | ensureTlsFiles (service : Service)

inductive Load where
  | rootCa
  | service (service : Service)

/-- `ensure_root_ca_files`, `ensure_gateway_tls_files` and `ensure_plugin_tls_files`, which read the
root CA back from its files. -/
def program (caSeedPhrase : List Char) : FileTasks.Program Call CertPath Load Draw where
  plan
    | .ensureRootCaFiles => [.makeDir, .load .rootCa]
    | .ensureTlsFiles service => [.makeDir, .load .rootCa, .load (.service service)]
  reads _ := .rootKey
  resume
    | .rootCa, existing, draw => do
      let rootCa ← loadOrCreateRootCaArtifacts c caSeedPhrase existing draw
      return [.compare .rootCert rootCa.certPem, .compare .rootKey rootCa.keyDer, .restrict .rootKey]
    | .service service, existing, draw => do
      let rootCa ← loadOrCreateRootCaArtifacts c caSeedPhrase existing draw
      let identity := deviceIdentity draw.serial draw.hostname
      let keyPair ← deterministicTlsKeyPair c caSeedPhrase service identity
      let cert ← generateServiceTlsMaterial c rootCa service.serialLabel
        (serviceCommonName service.name identity) keyPair draw.hostname draw.serviceSignature
      return [.makeDir, .makeDir, .compare service.certPath (c.pem cert),
        .compare service.keyPath (c.serializePem keyPair), .restrict service.keyPath]

end

/-! ### What a key brings about -/

section

variable {c : Crypto} {phrase : List Char}

/-- A key that is kept when it is found. -/
def Retained (c : Crypto) (phrase : List Char) (key : List UInt8) : Prop :=
  key ≠ [] ∧ isLegacyRootCaKeyDer c phrase key = false

/-- The certificate of the CA with the key pair. -/
structure OfCa (pair : c.KeyPair) (cert : Certificate c.KeyPair) : Prop where
  subject : cert.subjectKey = pair
  issuer : cert.issuerKey = pair
  issuerName : cert.issuerName = cert.params.commonName
  authority : cert.params.isCa = some 0
  serial : PositiveSerial cert.params.serialNumber

/-- A certificate for a service, signed with the key pair. -/
structure OfService (pair : c.KeyPair) (cert : Certificate c.KeyPair) : Prop where
  issuer : cert.issuerKey = pair
  bounded : cert.params.isCa = none
  purpose : cert.params.extendedKeyUsages = [.serverAuth]
  serial : PositiveSerial cert.params.serialNumber

/-- What calls put into the files while the CA has the key pair. -/
def Issued (pair : c.KeyPair) : CertPath → List UInt8 → Prop
  | .rootCert, content => ∃ cert, OfCa pair cert ∧ content = c.pem cert
  | .rootKey, _ => False
  | .gatewayCert, content | .pluginCert _, content => ∃ cert, OfService pair cert ∧ content = c.pem cert
  | .gatewayKey, content | .pluginKey _, content => ∃ own, content = c.serializePem own

theorem generateRootCaArtifacts_ok {keyDer : List UInt8} {deviceSerial : Option (List Char)}
    {signature : Nat} {rootCa : RootCaArtifacts c}
    (made : generateRootCaArtifacts c keyDer deviceSerial signature = .ok rootCa) :
    c.tryFrom keyDer = .ok rootCa.keyPair ∧ rootCa.keyDer = keyDer ∧
      OfCa rootCa.keyPair rootCa.cert ∧ rootCa.certPem = c.pem rootCa.cert ∧
      rootCa.cert.params.commonName = rootCaCommonName deviceSerial := by
  unfold generateRootCaArtifacts at made
  split at made
  · cases made
  · rename_i keyPair loads
    dsimp only at made
    split at made
    · cases made
    · cases made
      exact ⟨loads, rfl, ⟨rfl, rfl, rfl, rfl, derivedSerialNumber_positive ..⟩, rfl, rfl⟩

/-- The CA that is loaded has the key that was found, if that is kept. -/
theorem loadOrCreate_ok {existing : Option (List UInt8)} {draw : Draw} {rootCa : RootCaArtifacts c}
    (made : loadOrCreateRootCaArtifacts c phrase existing draw = .ok rootCa) :
    c.tryFrom rootCa.keyDer = .ok rootCa.keyPair ∧ OfCa rootCa.keyPair rootCa.cert ∧
      rootCa.certPem = c.pem rootCa.cert ∧
      rootCa.cert.params.commonName = rootCaCommonName (readDeviceSerial draw.serial) ∧
      ∀ key, existing = some key → Retained c phrase key → rootCa.keyDer = key := by
  unfold loadOrCreateRootCaArtifacts at made
  dsimp only at made
  obtain ⟨keyDer, chosen, made⟩ := Traverse.bind_eq_ok.mp made
  obtain ⟨loads, same, ofCa, certPem, name⟩ := generateRootCaArtifacts_ok made
  refine ⟨same ▸ loads, ofCa, certPem, name, ?_⟩
  rintro key rfl ⟨some_, kept⟩
  have found : key.isEmpty = false := List.isEmpty_eq_false_iff.mpr some_
  dsimp only at chosen
  rw [found, kept] at chosen
  rw [same]
  exact (Except.ok.inj chosen).symm

theorem generateServiceTlsMaterial_ok {rootCa : RootCaArtifacts c} {serialLabel commonName : List Char}
    {keyPair : c.KeyPair} {hostname : Option (List Char)} {signature : Nat}
    {cert : Certificate c.KeyPair}
    (made : generateServiceTlsMaterial c rootCa serialLabel commonName keyPair hostname signature =
      .ok cert) :
    OfService rootCa.keyPair cert ∧ cert.subjectKey = keyPair ∧ cert.params.commonName = commonName ∧
      cert.issuerName = rootCa.cert.params.commonName := by
  unfold generateServiceTlsMaterial at made
  split at made
  · cases made
  · dsimp only at made
    split at made
    · cases made
    · cases made
      exact ⟨⟨rfl, rfl, rfl, derivedSerialNumber_positive ..⟩, rfl, rfl, rfl⟩

/-- What a load leads to: the CA's own files, or those of a service. -/
theorem resume_ok {k : Load} {existing : Option (List UInt8)} {draw : Draw}
    {more : List (Access CertPath Load)} (resumed : (program c phrase).resume k existing draw = .ok more) :
    ∃ rootCa, loadOrCreateRootCaArtifacts c phrase existing draw = .ok rootCa ∧
      match k with
      | .rootCa => more =
          [.compare .rootCert rootCa.certPem, .compare .rootKey rootCa.keyDer, .restrict .rootKey]
      | .service service => ∃ keyPair cert,
          deterministicTlsKeyPair c phrase service (deviceIdentity draw.serial draw.hostname) =
            .ok keyPair ∧
          generateServiceTlsMaterial c rootCa service.serialLabel
            (serviceCommonName service.name (deviceIdentity draw.serial draw.hostname)) keyPair
            draw.hostname draw.serviceSignature = .ok cert ∧
          more = [.makeDir, .makeDir, .compare service.certPath (c.pem cert),
            .compare service.keyPath (c.serializePem keyPair), .restrict service.keyPath] := by
  cases k with
  | rootCa =>
    obtain ⟨rootCa, loaded, rest⟩ := Traverse.bind_eq_ok.mp resumed
    exact ⟨rootCa, loaded, (Except.ok.inj rest).symm⟩
  | service service =>
    obtain ⟨rootCa, loaded, rest⟩ := Traverse.bind_eq_ok.mp resumed
    obtain ⟨keyPair, derived, rest⟩ := Traverse.bind_eq_ok.mp rest
    obtain ⟨cert, signed, rest⟩ := Traverse.bind_eq_ok.mp rest
    exact ⟨rootCa, loaded, keyPair, cert, derived, signed, (Except.ok.inj rest).symm⟩

/-- Once a key is in its file that is retained, all that calls put into files comes from it. -/
theorem settled {files : Files CertPath} {key : List UInt8} {pair : c.KeyPair}
    (written : contentOf files .rootKey = some key) (retained : Retained c phrase key)
    (loads : c.tryFrom key = .ok pair) : Settled (program c phrase) (Issued pair) files := by
  refine ⟨fun _ _ => id, ?_, ?_⟩
  · rintro (_ | service) a member
    all_goals simp only [program, List.mem_cons, List.not_mem_nil, or_false] at member
    all_goals rcases member with rfl | rfl | rfl <;> trivial
  · intro k draw more resumed
    obtain ⟨rootCa, loaded, shape⟩ := resume_ok resumed
    obtain ⟨pairLoads, ofCa, certPem, _, keeps⟩ := loadOrCreate_ok loaded
    have sameKey : rootCa.keyDer = key := keeps key written retained
    have samePair : rootCa.keyPair = pair := by
      rw [sameKey, loads] at pairLoads
      exact (Except.ok.inj pairLoads).symm
    rw [samePair] at ofCa
    cases k with
    | rootCa =>
      dsimp only at shape
      rw [shape]
      simp only [List.forall_mem_cons]
      refine ⟨Or.inl ⟨rootCa.cert, ofCa, certPem⟩, ?_, trivial, fun _ none_ => by cases none_⟩
      exact Or.inr ⟨⟨.rootCa, rfl⟩, by rw [sameKey]; exact written⟩
    | service service =>
      obtain ⟨keyPair, cert, _, signed, rfl⟩ := shape
      have ofService := (generateServiceTlsMaterial_ok signed).1
      rw [samePair] at ofService
      simp only [List.forall_mem_cons]
      refine ⟨trivial, trivial, Or.inl ?_, Or.inl ?_, trivial, fun _ none_ => by cases none_⟩
      · cases service <;> exact ⟨cert, ofService, rfl⟩
      · cases service <;> exact ⟨keyPair, rfl⟩

/-! ### A call alone -/

/-- The files after a call for the CA has completed alone. -/
theorem completes_rootCa {D : Draw → Prop} {files files' : Files CertPath}
    {rest : List (Access CertPath Load)}
    (completes : Completes (program c phrase) D files (.load .rootCa :: rest) files') :
    ∃ draw rootCa, D draw ∧
      loadOrCreateRootCaArtifacts c phrase (contentOf files .rootKey) draw = .ok rootCa ∧
      Completes (program c phrase) D (Function.update
        (install files .rootCert rootCa.certPem) .rootKey (some ⟨rootCa.keyDer, true⟩)) rest files' := by
  obtain ⟨draw, more, drawn, resumed, later⟩ := completes.load
  obtain ⟨rootCa, loaded, shape⟩ := resume_ok resumed
  dsimp only at shape
  rw [shape] at later
  obtain ⟨f, here, later⟩ := later.compare.compare.restrict
  refine ⟨draw, rootCa, drawn, loaded, ?_⟩
  rw [install, Function.update_self] at here
  obtain rfl := Option.some.inj here
  rw [install, Function.update_idem] at later
  exact later

/-- The files of a service after the rest of its call has completed alone. -/
theorem completes_service {D : Draw → Prop} {files files' : Files CertPath} {service : Service}
    (completes : Completes (program c phrase) D files [.load (.service service)] files') :
    ∃ draw rootCa keyPair cert, D draw ∧
      loadOrCreateRootCaArtifacts c phrase (contentOf files .rootKey) draw = .ok rootCa ∧
      generateServiceTlsMaterial c rootCa service.serialLabel
        (serviceCommonName service.name (deviceIdentity draw.serial draw.hostname)) keyPair
        draw.hostname draw.serviceSignature = .ok cert ∧
      files' = Function.update (install files service.certPath (c.pem cert)) service.keyPath
        (some ⟨c.serializePem keyPair, true⟩) := by
  obtain ⟨draw, more, drawn, resumed, later⟩ := completes.load
  obtain ⟨rootCa, loaded, keyPair, cert, _, signed, shape⟩ := resume_ok resumed
  rw [shape] at later
  obtain ⟨f, here, later⟩ := later.makeDir.makeDir.compare.compare.restrict
  refine ⟨draw, rootCa, keyPair, cert, drawn, loaded, signed, ?_⟩
  rw [install, Function.update_self] at here
  obtain rfl := Option.some.inj here
  rw [later.nil, install, Function.update_idem]

theorem Service.paths_ne (service : Service) :
    service.certPath ≠ .rootCert ∧ service.certPath ≠ .rootKey ∧ service.keyPath ≠ .rootCert ∧
      service.keyPath ≠ .rootKey ∧ service.certPath ≠ service.keyPath := by
  cases service <;> simp [Service.certPath, Service.keyPath]

theorem update_service {files : Files CertPath} {service : Service} {certificate key : StoredFile}
    {path : CertPath} (other : path ≠ service.certPath) (other' : path ≠ service.keyPath) :
    Function.update (Function.update files service.certPath (some certificate)) service.keyPath
      (some key) path = files path := by
  rw [Function.update_of_ne other', Function.update_of_ne other]

/-- A completed call leaves the key of the CA that it has loaded. -/
theorem completes_key {D : Draw → Prop} {op : Call} {files files' : Files CertPath}
    (completes : Completes (program c phrase) D files ((program c phrase).plan op) files') :
    ∃ draw rootCa,
      loadOrCreateRootCaArtifacts c phrase (contentOf files .rootKey) draw = .ok rootCa ∧
      files' .rootKey = some ⟨rootCa.keyDer, true⟩ := by
  cases op with
  | ensureRootCaFiles =>
    obtain ⟨draw, rootCa, _, loaded, later⟩ := completes_rootCa completes.makeDir
    exact ⟨draw, rootCa, loaded, by rw [later.nil, Function.update_self]⟩
  | ensureTlsFiles service =>
    obtain ⟨draw, rootCa, _, loaded, later⟩ := completes_rootCa completes.makeDir
    obtain ⟨_, _, _, _, _, _, _, rfl⟩ := completes_service later
    obtain ⟨_, cert, _, key, _⟩ := service.paths_ne
    refine ⟨draw, rootCa, loaded, ?_⟩
    rw [install, update_service cert.symm key.symm, Function.update_self]

end

/-! ### A device -/

/-- Keys are bytes behind a tag. -/
def plainCrypto : Crypto where
  SigningKey := List UInt8
  KeyPair := List UInt8
  sha256 bytes := (bytes ++ List.replicate 32 0).take 32
  sha256_length := by simp
  fromSlice := some
  random n := [UInt8.ofNat n, 1]
  toPkcs8Der key := .ok (0x30 :: key)
  tryFrom
    | 0x30 :: first :: rest => .ok (first :: rest)
    | _ => .error "invalid key"
  serializedDer key := 0x30 :: key
  serializePem key := key
  sanTypes := .ok
  refuses _ := none
  pem cert := cert.issuerKey ++ toUtf8 cert.params.commonName

def devicePhrase : List Char := "BEECHAT_KAONIC_GATEWAY".toList

def deviceService : Service := .plugin "/opt".toList "kaonic-gateway".toList

/-- As many accesses as the first start of the service makes, with its draws. -/
def firstStart : List (Input Draw) := List.replicate 19 { draw := { random := 7 } }

def deviceFiles : Files CertPath :=
  (alone (program plainCrypto devicePhrase) (fun _ => none)
    ((program plainCrypto devicePhrase).plan (.ensureTlsFiles deviceService)) firstStart).1

theorem device_started : Completes (program plainCrypto devicePhrase)
    (fun draw => draw.serial = none ∧ draw.hostname = none) (fun _ => none)
    ((program plainCrypto devicePhrase).plan (.ensureTlsFiles deviceService)) deviceFiles := by
  refine ⟨firstStart, ?_, Prod.ext rfl rfl⟩
  intro input member
  rw [List.eq_of_mem_replicate member]
  exact ⟨rfl, rfl⟩

/-- Two pages are shown at once, and the device is switched off before either is done. -/
def pageEvents : List (TaskSystem.Event Nat Call (Input Draw)) :=
  [.call 0 .ensureRootCaFiles, .call 1 .ensureRootCaFiles, .step 0 { draw := {} },
    .step 1 { draw := {} }, .step 0 { draw := { signature := 1 } },
    .step 1 { draw := { signature := 2 } }, .step 0 { draw := {} }]

theorem device_key : contentOf deviceFiles .rootKey = some [0x30, 7, 1] := rfl

theorem device_retained : Retained plainCrypto devicePhrase [0x30, 7, 1] :=
  ⟨by decide, by decide⟩

/-! ### The key over the years -/

/-- Once a call has completed, as it does at the start, the CA has its key for good: however later
calls take turns, fail and are cut off by restarts, the key stays in its file, which nobody else may
read, and every certificate is the CA's or signed with this key. -/
theorem ca_key_settles (c : Crypto) (phrase : List Char) (op : Call)
    (files mid later : Files CertPath)
    (startup : Completes (program c phrase) (fun _ => True) files ((program c phrase).plan op) mid)
    (key : List UInt8) (written : contentOf mid .rootKey = some key)
    (retained : Retained c phrase key)
    (reboots : Reboots Nat (program c phrase) (Readable (program c phrase)) mid later) :
    (∀ old, contentOf files .rootKey = some old → Retained c phrase old → key = old) ∧
      later .rootKey = some ⟨key, true⟩ ∧
      ∃ pair, c.tryFrom key = .ok pair ∧ ∀ path, Woven (Issued pair path)
        ((contentOf mid path).getD []) ((contentOf later path).getD []) := by
  obtain ⟨draw, rootCa, loaded, held⟩ := completes_key startup
  obtain ⟨loads, _, _, _, keeps⟩ := loadOrCreate_ok loaded
  have same : rootCa.keyDer = key := by
    rw [contentOf, held] at written
    exact Option.some.inj written
  rw [same] at held loads
  have steady := (settled written retained loads)
  have after := reboots.later steady (.refl mid)
  refine ⟨fun old found kept => same ▸ keeps old found kept, ?_, rootCa.keyPair, loads, after.woven⟩
  have content := after.untouched (p := CertPath.rootKey) fun _ => id
  have closed := after.restricted .rootKey (by rw [held]; rfl)
  rw [written] at content
  obtain ⟨f, there, rfl⟩ := Option.map_eq_some_iff.mp content
  rw [there, Option.any_some] at closed
  rw [there, ← closed]

theorem ca_key_settles_device : ∃ s,
    (tasks (program plainCrypto devicePhrase)).run ⟨deviceFiles, fun _ => .running []⟩ pageEvents =
      some s ∧ s.shared .rootKey = some ⟨[0x30, 7, 1], true⟩ := by
  obtain ⟨s, ran⟩ : ∃ s, (tasks (program plainCrypto devicePhrase)).run
      ⟨deviceFiles, fun _ => .running []⟩ pageEvents = some s := ⟨_, rfl⟩
  have startup : Completes (program plainCrypto devicePhrase) (fun _ => True) (fun _ => none)
      ((program plainCrypto devicePhrase).plan (.ensureTlsFiles deviceService)) deviceFiles := by
    obtain ⟨inputs, _, done⟩ := device_started
    exact ⟨inputs, fun _ _ => trivial, done⟩
  have path := @TaskSystem.Path.of_run _ _ _ _ _ _ _ (Readable (program plainCrypto devicePhrase))
    _ _ _ ran (by simp [pageEvents, Readable])
  exact ⟨s, ran, (ca_key_settles plainCrypto devicePhrase (.ensureTlsFiles deviceService) _ deviceFiles
    s.shared startup _ device_key device_retained (.boot path (.none _))).2.1⟩

/-- What a start leaves of a service: the CA's certificate and the service's hang together, both keys
are there, nobody else may read them, and the other files are as they were. -/
theorem startup_serves (c : Crypto) (phrase : List Char) (service : Service)
    (serial hostname : Option (List Char)) (files mid : Files CertPath)
    (startup : Completes (program c phrase)
      (fun draw => draw.serial = serial ∧ draw.hostname = hostname) files
      ((program c phrase).plan (.ensureTlsFiles service)) mid)
    (key : List UInt8) (written : contentOf mid .rootKey = some key)
    (retained : Retained c phrase key) :
    ∃ pair ca own cert, c.tryFrom key = .ok pair ∧ OfCa pair ca ∧
      contentOf mid .rootCert = some (c.pem ca) ∧ mid .rootKey = some ⟨key, true⟩ ∧
      OfService pair cert ∧ cert.issuerName = ca.params.commonName ∧ cert.subjectKey = own ∧
      cert.params.commonName = serviceCommonName service.name (deviceIdentity serial hostname) ∧
      contentOf mid service.certPath = some (c.pem cert) ∧
      mid service.keyPath = some ⟨c.serializePem own, true⟩ ∧
      ∀ path ∉ [.rootCert, .rootKey, service.certPath, service.keyPath], mid path = files path := by
  obtain ⟨draw, rootCa, ⟨named, _⟩, loaded, later⟩ := completes_rootCa startup.makeDir
  obtain ⟨loads, ofCa, certPem, name, _⟩ := loadOrCreate_ok loaded
  obtain ⟨draw', again, own, cert, ⟨named', hosted⟩, reloaded, signed, rfl⟩ := completes_service later
  obtain ⟨certCert, certKey, keyCert, keyKey, apart⟩ := service.paths_ne
  have held : contentOf (Function.update (install files .rootCert rootCa.certPem) .rootKey
      (some ⟨rootCa.keyDer, true⟩)) .rootKey = some rootCa.keyDer := by
    rw [contentOf, Function.update_self]
    rfl
  have same : rootCa.keyDer = key := by
    rw [contentOf, install, update_service certKey.symm keyKey.symm, ← contentOf, held] at written
    exact Option.some.inj written
  rw [held] at reloaded
  obtain ⟨loads', _, _, name', keeps⟩ := loadOrCreate_ok reloaded
  have sameKey : again.keyDer = rootCa.keyDer := keeps _ rfl (same ▸ retained)
  have samePair : again.keyPair = rootCa.keyPair := by
    rw [sameKey, loads] at loads'
    exact (Except.ok.inj loads').symm
  obtain ⟨ofService, subject, common, issuer⟩ := generateServiceTlsMaterial_ok signed
  refine ⟨rootCa.keyPair, rootCa.cert, own, cert, same ▸ loads, ofCa, ?_, ?_, samePair ▸ ofService, ?_,
    subject, ?_, ?_, ?_, ?_⟩
  · rw [contentOf, install, update_service certCert.symm keyCert.symm, Function.update_of_ne (by decide),
      install, Function.update_self, ← certPem]
    rfl
  · rw [install, update_service certKey.symm keyKey.symm, Function.update_self, same]
  · rw [issuer, name', name, named, named']
  · rw [common, named', hosted]
  · rw [contentOf, Function.update_of_ne apart, install, Function.update_self]
    rfl
  · rw [Function.update_self]
  · intro path other
    simp only [List.mem_cons, List.not_mem_nil, or_false, not_or] at other
    obtain ⟨notCert, notKey, notService, notServiceKey⟩ := other
    rw [install, update_service notService notServiceKey, Function.update_of_ne notKey, install,
      Function.update_of_ne notCert]

theorem startup_serves_device : ∃ ca cert : Certificate plainCrypto.KeyPair,
    cert.issuerName = ca.params.commonName ∧ cert.issuerKey = ca.subjectKey ∧
      contentOf deviceFiles .rootCert = some (plainCrypto.pem ca) ∧
      contentOf deviceFiles (.pluginCert "/opt".toList) = some (plainCrypto.pem cert) := by
  obtain ⟨pair, ca, own, cert, _, ofCa, rootCert, _, ofService, issuer, _, _, serviceCert, _⟩ :=
    startup_serves plainCrypto devicePhrase deviceService none none _ deviceFiles device_started _
      device_key device_retained
  exact ⟨ca, cert, issuer, ofService.issuer.trans ofCa.subject.symm, rootCert, serviceCert⟩

/-- A key file that holds no key and yet something, as a write that was cut off leaves it, is never
repaired: however calls take turns, fail and are cut off by restarts, no file changes any more and no
call completes. -/
theorem torn_key_sticks (c : Crypto) (phrase : List Char) (files later : Files CertPath)
    (torn : List UInt8) (written : contentOf files .rootKey = some torn)
    (retained : Retained c phrase torn) (err : String) (broken : c.tryFrom torn = .error err)
    (reboots : Reboots Nat (program c phrase) (fun _ _ => True) files later)
    (events : List (TaskSystem.Event Nat Call (Input Draw)))
    (s : TaskSystem.State Nat (Files CertPath) (Phase CertPath Load))
    (path : TaskSystem.Path (tasks (program c phrase)) (fun _ _ => True)
      ⟨later, fun _ => .running []⟩ events s) :
    later = files ∧ s.shared = files ∧
      ∀ i op, .call i op ∈ events → s.phase i ≠ .running [] := by
  have barred : Barred (program c phrase) files := by
    refine ⟨?_, ?_⟩
    · rintro (_ | service)
      · exact ⟨by simp [program], .rootCa, by simp [program]⟩
      · exact ⟨by simp [program], .rootCa, by simp [program]⟩
    · intro k draw more resumed
      obtain ⟨rootCa, loaded, _⟩ := resume_ok resumed
      rw [show contentOf files ((program c phrase).reads k) = some torn from written] at loaded
      obtain ⟨loads, _, _, _, keeps⟩ := loadOrCreate_ok loaded
      rw [keeps torn rfl retained, broken] at loads
      cases loads
  have kept := barred.reboots reboots
  obtain ⟨same, loads⟩ := barred.path path kept fun _ => Or.inl rfl
  exact ⟨kept, same, fun i op called => (loads i (Or.inr ⟨op, called⟩)).ne_done⟩

/-- The first start is cut off when one byte of the key is written. -/
def tornFiles : Files CertPath :=
  (alone (program plainCrypto devicePhrase) (fun _ => none)
    ((program plainCrypto devicePhrase).plan .ensureRootCaFiles)
    (List.replicate 7 { draw := { random := 7 } } ++ [{ error := some "cut off", written := 1, draw := {} }])).1

/-- A page is shown while the service starts. -/
def tornEvents : List (TaskSystem.Event Nat Call (Input Draw)) :=
  [.call 0 (.ensureTlsFiles deviceService), .step 0 { draw := {} }, .call 1 .ensureRootCaFiles,
    .step 1 { draw := {} }, .step 0 { draw := { random := 8 } }, .step 1 { draw := {} }]

theorem torn_key_sticks_device : ∃ s s',
    (tasks (program plainCrypto devicePhrase)).run ⟨tornFiles, fun _ => .running []⟩ tornEvents =
      some s ∧
    (tasks (program plainCrypto devicePhrase)).run ⟨s.shared, fun _ => .running []⟩ tornEvents =
      some s' ∧
    contentOf s'.shared .rootKey = some [0x30] ∧ s'.phase 0 ≠ .running [] := by
  obtain ⟨s, ran⟩ : ∃ s, (tasks (program plainCrypto devicePhrase)).run
      ⟨tornFiles, fun _ => .running []⟩ tornEvents = some s := ⟨_, rfl⟩
  obtain ⟨s', again⟩ : ∃ s', (tasks (program plainCrypto devicePhrase)).run
      ⟨s.shared, fun _ => .running []⟩ tornEvents = some s' := by
    cases ran
    exact ⟨_, rfl⟩
  have torn : contentOf tornFiles .rootKey = some [0x30] := rfl
  have sticks := torn_key_sticks plainCrypto devicePhrase tornFiles s.shared [0x30] torn
    ⟨by decide, by decide⟩ _ rfl (.boot (.of_run ran fun _ _ _ => trivial) (.none _)) tornEvents s'
    (.of_run again fun _ _ _ => trivial)
  exact ⟨s, s', ran, again, sticks.2.1 ▸ torn, sticks.2.2 0 _ List.mem_cons_self⟩

end Kaonic.Gateway.RootCa
