import EvictionGate.Http.Target
import EvictionGate.Settings
import EvictionGate.Startup.Kubeconfig
import EvictionGate.Tls.Base64

/-!
# Access to the API server

Who wants to talk to the API server needs its address, the certificates it may show, and
perhaps a proxy; all of this is found by way of the files that name clusters. Then a client
is made, which may want credentials. Nothing is sent yet.
-/

namespace EvictionGate.Startup

/-- What a process finds where it is started. -/
structure Surroundings where
  env : Environment
  /-- The bytes of a file, if it can be read. -/
  file : String → Option (List UInt8)

/-- Why there are no credentials. -/
inductive CredentialFault
  /-- No command is named that would give them. -/
  | noCommand
  /-- The command is not found. -/
  | commandNotFound
  /-- The file of a token is not found. -/
  | fileNotFound (path : String)
  /-- Whoever should provide them cannot. -/
  | provider (reason : String)
  deriving DecidableEq, Repr

/-- Why no client can be made. -/
inductive ClientFault
  /-- Nothing says where the API server is. -/
  | noServer
  /-- Proxies of this kind are a feature that is left out. -/
  | proxyLeftOut (proxy feature : String)
  | proxyUnknown (proxy : String)
  | credentials (fault : CredentialFault)
  deriving DecidableEq, Repr

/-- What the system says of a file that is not there. -/
def notFound : String := "No such file or directory (os error 2)"

/-- What went wrong, and why. -/
def CredentialFault.messages : CredentialFault → List String
  | .noCommand => ["exec command must be specified to use exec authentication plugin"]
  | .commandNotFound => ["unable to run auth exec: " ++ notFound, notFound]
  | .fileNotFound path =>
    ["failed to read token file '\"" ++ path ++ "\"': " ++ notFound, notFound]
  | .provider reason => ["failed exec auth: " ++ reason]

/-- What went wrong, and why. -/
def ClientFault.messages : ClientFault → List String
  | .noServer => ["Failed to infer configuration"]
  | .proxyLeftOut proxy feature =>
    ["configured proxy " ++ proxy ++ " requires the disabled feature \"" ++ feature ++ "\""]
  | .proxyUnknown proxy => ["configured proxy " ++ proxy ++ " uses an unsupported protocol"]
  | .credentials fault =>
    match fault.messages with
    | [] => ["auth error"]
    | message :: causes => ("auth error: " ++ message) :: message :: causes

/-! ## Files -/

/-- The folder of a path. -/
def folderOf (path : String) : String :=
  let rest := path.toList.reverse.dropWhile (· ≠ '/')
  match rest with
  | [] => ""
  | ['/'] => "/"
  | _ :: folder => String.ofList folder.reverse

/-- A path that a file in a folder names. -/
def pathFrom (folder path : String) : String :=
  if path.toList.head? = some '/' || folder = "" then path
  else if folder = "/" then folder ++ path
  else folder ++ "/" ++ path

/-- The files that may say where the API server is: those that are named, or the one in
the home directory. -/
def kubeconfigPaths (env : Environment) : List String :=
  let named := (((env "KUBECONFIG").map (Text.split ':')).getD []).filter (· ≠ "")
  if named.isEmpty then ((env "HOME").map (· ++ "/.kube/config")).toList else named

/-- What some files say together, if all of them can be read. -/
def kubeconfig? (file : String → Option (List UInt8)) (paths : List String) : Option Kubeconfig :=
  paths.foldlM
    (fun k path => do k.merge? (← Kubeconfig.ofBytes? (folderOf path) (← file path))) .empty

/-! ## Certificates -/

/-- The data that base64 characters encode, with all pads and nothing else among them. -/
def base64? (text : List UInt8) : Option (List UInt8) := do
  let body := text.takeWhile (· != 0x3D)
  let pads := text.length - body.length
  let values ← body.mapM Tls.Base64.sextet?
  let unused := if pads = 1 then 4 else if pads = 2 then 16 else 1
  if text.length % 4 = 0 && pads ≤ 2 && (text.drop body.length).all (· == 0x3D)
      && values.getLast?.all (· % unused = 0)
  then some (Tls.Base64.bytesOf values) else none

/-- What stands before a mark, and after it. -/
def splitAt? (mark : List UInt8) : List UInt8 → Option (List UInt8 × List UInt8)
  | [] => none
  | b :: bs =>
    if mark.isPrefixOf (b :: bs) then some ([], (b :: bs).drop mark.length)
    else (splitAt? mark bs).map fun (before, after) => (b :: before, after)

/-- Whether every block between a BEGIN and an END mark has one label and base64 inside.
What is no complete block does not matter. -/
def areBlocks : Nat → List UInt8 → Bool
  | 0, _ => true
  | fuel + 1, bytes =>
    let dashes := Text.bytes "-----"
    let found := do
      let (_, rest) ← splitAt? (Text.bytes "-----BEGIN ") bytes
      let (label, rest) ← splitAt? dashes rest
      let (body, rest) ← splitAt? (Text.bytes "-----END ") rest
      let (last, rest) ← splitAt? dashes rest
      some (label, body, last, rest)
    match found with
    | none => true
    | some (label, body, last, rest) =>
      let body := ((splitAt? [0x0A, 0x0A] body).map Prod.snd).getD body
      let body := body.filter fun b => !(b == 0x20 || (9 ≤ b && b ≤ 13))
      !label.isEmpty && label = last && (base64? body).isSome && areBlocks fuel rest

/-- Whether the certificates that a cluster may show can be read: they are written out, or
in a file. None need be named. -/
def hasReadableCertificates (s : Surroundings) (cluster : Named) : Bool :=
  let bundle? : Option (Option (List UInt8)) :=
    match Kubeconfig.text? cluster.value "certificate-authority-data",
        Kubeconfig.text? cluster.value "certificate-authority" with
    | some data, _ => some (base64? (Text.bytes data))
    | none, some path => some (s.file (pathFrom cluster.folder path))
    | none, none => none
  match bundle? with
  | none => true
  | some none => false
  | some (some bytes) => areBlocks bytes.length bytes

/-! ## Proxies -/

/-- The variables that name a proxy. -/
def proxyVariables : List String :=
  ["HTTP_PROXY", "http_proxy", "HTTPS_PROXY", "https_proxy"]

/-- The proxy on the way to a cluster, if there is one. -/
def proxy? (s : Surroundings) (cluster : Named) : Option String :=
  let named := Kubeconfig.text? cluster.value "proxy-url" :: proxyVariables.map s.env
  (named.filterMap id).find? (· ≠ "")

/-- Why a proxy cannot be used: none can. -/
def proxyFault (proxy : Http.Address) : ClientFault :=
  let scheme := proxy.scheme.map String.ofList
  if scheme = some "socks5" then .proxyLeftOut proxy.text "kube/socks5"
  else if scheme = some "http" then .proxyLeftOut proxy.text "kube/http-proxy"
  else .proxyUnknown proxy.text

/-! ## Credentials -/

/-- Why a provider gives no credentials, if it does not: only one kind is known, and it
has to hold a token. -/
def providerFault? (provider : Yaml.Value) : Option CredentialFault :=
  let name := (Kubeconfig.text? provider "name").getD ""
  let token := (provider.get? "config").bind (Kubeconfig.text? · "id-token")
  if name ≠ "oidc" then
    some (.provider ("Authentication with provider " ++ name ++ " not supported"))
  else if token.isNone then
    some (.provider "No id-token for oidc Authentication provider")
  else none

/-- Why a user has no credentials, if it should have some. A provider comes first, then a
name with a password, a token, a token in a file, and a command. -/
def credentialFault? (s : Surroundings) (user : Named) : Option CredentialFault :=
  let text (name : String) := Kubeconfig.text? user.value name
  let part (name : String) := (user.value.get? name).filter fun v => !v.isNull
  match (part "auth-provider").bind providerFault?, part "auth-provider" with
  | some fault, _ => some fault
  | none, some _ => none
  | none, none =>
    if ((text "username").isSome && (text "password").isSome) || (text "token").isSome then none
    else match text "tokenFile", part "exec" with
      | some path, _ =>
        let path := pathFrom user.folder path
        if ((s.file path).bind Text.ofBytes?).isSome then none else some (.fileNotFound path)
      | none, some exec =>
        match Kubeconfig.text? exec "command" with
        | none => some .noCommand
        | some _ => some .commandNotFound
      | none, none => none

/-! ## The client -/

/-- The variables that are looked at. -/
def connectionVariables : List String :=
  ["HOME", "KUBECONFIG"] ++ proxyVariables

/-- The files that may be read besides those that name clusters. -/
def connectionFiles (s : Surroundings) : List String :=
  match (kubeconfig? s.file (kubeconfigPaths s.env)).bind Kubeconfig.chosen? with
  | none => []
  | some (cluster, user) =>
    ((Kubeconfig.text? cluster.value "certificate-authority").map (pathFrom cluster.folder)).toList
      ++ ((Kubeconfig.text? user.value "tokenFile").map (pathFrom user.folder)).toList

/-- Makes a client: the address and the proxy have to be addresses, and the certificates
readable. -/
def connect (s : Surroundings) : Except ClientFault Unit :=
  match (kubeconfig? s.file (kubeconfigPaths s.env)).bind Kubeconfig.chosen? with
  | none => .error .noServer
  | some (cluster, user) =>
    let address := (Kubeconfig.text? cluster.value "server").bind Http.Address.ofText?
    let proxy := (proxy? s cluster).map Http.Address.ofText?
    if address.isNone || !hasReadableCertificates s cluster then .error .noServer
    else match proxy with
      | some none => .error .noServer
      | some (some proxy) => .error (proxyFault proxy)
      | none =>
        match credentialFault? s user with
        | some fault => .error (.credentials fault)
        | none => .ok ()

end EvictionGate.Startup
