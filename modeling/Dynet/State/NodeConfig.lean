import Dynet.Ingress.Config
import Dynet.Lib.Checks

/-! One `forwarding.nodes` entry of the configuration file: the execution configuration
it is loaded into, and the text that its fingerprint hashes. The digest itself is a
parameter, from the hashed text to lowercase hexadecimal digits. -/
namespace Dynet.State
open Dynet.Runtime Dynet.Ingress Dynet.Lib Dynet.Lib.Checks

def nonEmpty (name value : String) : Except String String :=
  if blank value then .error s!"{name} must not be empty" else .ok value

theorem nonEmpty_ok_iff (name value result : String) :
    nonEmpty name value = .ok result ↔ blank value = false ∧ result = value := by
  unfold nonEmpty
  cases blank value with
  | true => simp
  | false => simp [eq_comm (a := result)]

def parseShadowsocksMethod (value : String) : Except String ShadowsocksMethod :=
  match value with
  | "aes-256-gcm" => .ok .aes256Gcm
  | "2022-blake3-aes-128-gcm" => .ok .blake3Aes128Gcm2022
  | _ => .error s!"unsupported shadowsocks cipher: {value}"

structure FileRealityOptions where
  publicKey : Option String := none
  shortId : Option String := none
  deriving DecidableEq, Repr

structure FileForwardNodeConfig where
  id : String
  enabled : Option Bool := none
  kind : String
  server : Option String := none
  port : Option UInt16 := none
  method : Option String := none
  cipher : Option String := none
  alterId : Option UInt16 := none
  uuid : Option String := none
  flow : Option String := none
  network : Option String := none
  tls : Option Bool := none
  password : Option String := none
  sni : Option String := none
  servername : Option String := none
  clientFingerprint : Option String := none
  realityOpts : Option FileRealityOptions := none
  skipCertVerify : Option Bool := none
  udp : Option Bool := none
  ipv6 : Option Bool := none
  deriving DecidableEq, Repr

/-- Two spellings of one setting, of which either may be left out. -/
def agreed (first second : Option String) (disagree : String) : Except String (Option String) :=
  match first, second with
  | some value, none | none, some value => .ok (some value)
  | some value, some other => if value = other then .ok (some value) else .error disagree
  | none, none => .ok none

def serverNameDisagrees : String := "forwarding.nodes[].sni and forwarding.nodes[].servername disagree"

namespace FileForwardNodeConfig

variable (node : FileForwardNodeConfig)

def requiredFor (protocol name : String) : String := s!"forwarding.nodes[].{name} is required for {protocol}"

/-- The check every proxy protocol starts with. -/
def udpEnabled (protocol : String) : Except String Unit :=
  ensure (node.udp = some true) s!"forwarding.nodes[].udp must be true for {protocol} cold start"

def loadShadowsocks : Except String EgressNodeConfig := do
  node.udpEnabled "shadowsocks"
  let server ← need node.server (requiredFor "shadowsocks" "server")
  let port ← need node.port (requiredFor "shadowsocks" "port")
  let method ← agreed node.method node.cipher
    "forwarding.nodes[].method and forwarding.nodes[].cipher disagree"
  let method ← need method (requiredFor "shadowsocks" "method")
  let password ← need node.password (requiredFor "shadowsocks" "password")
  let method ← parseShadowsocksMethod method
  return .shadowsocks ⟨server,port,method,password⟩

def loadTrojan : Except String EgressNodeConfig := do
  node.udpEnabled "trojan"
  let server ← need node.server (requiredFor "trojan" "server")
  let port ← need node.port (requiredFor "trojan" "port")
  let password ← need node.password (requiredFor "trojan" "password")
  let sni ← agreed node.sni node.servername serverNameDisagrees
  return .trojan ⟨server,port,password,sni,node.skipCertVerify.getD false⟩

def loadVmess : Except String EgressNodeConfig := do
  node.udpEnabled "vmess"
  ensure (node.alterId = some 0) "forwarding.nodes[].alterId must be 0 for vmess cold start"
  ensure (node.cipher = some "auto") "forwarding.nodes[].cipher must be auto for vmess cold start"
  ensure (node.network = none ∨ node.network = some "tcp")
    "forwarding.nodes[].network must be tcp for vmess cold start"
  ensure (node.tls ≠ some true) "forwarding.nodes[].tls is not supported for vmess cold start"
  let server ← need node.server (requiredFor "vmess" "server")
  let port ← need node.port (requiredFor "vmess" "port")
  let uuid ← need node.uuid (requiredFor "vmess" "uuid")
  return .vmess ⟨server,port,uuid⟩

def loadVless : Except String EgressNodeConfig := do
  node.udpEnabled "vless"
  ensure (node.flow = some "xtls-rprx-vision")
    "forwarding.nodes[].flow must be xtls-rprx-vision for vless cold start"
  ensure (node.network = none ∨ node.network = some "tcp")
    "forwarding.nodes[].network must be tcp for vless cold start"
  ensure (node.tls = some true) "forwarding.nodes[].tls must be true for vless reality cold start"
  ensure (node.clientFingerprint = none ∨ node.clientFingerprint = some "chrome")
    "forwarding.nodes[].client-fingerprint must be chrome for vless cold start"
  let server ← need node.server (requiredFor "vless" "server")
  let port ← need node.port (requiredFor "vless" "port")
  let uuid ← need node.uuid (requiredFor "vless" "uuid")
  let serverName ← agreed node.sni node.servername serverNameDisagrees
  let serverName ← need serverName (requiredFor "vless reality" "servername")
  let reality ← need node.realityOpts (requiredFor "vless reality" "reality-opts")
  let publicKey ← need reality.publicKey "forwarding.nodes[].reality-opts.public-key is required"
  let shortId ← need reality.shortId "forwarding.nodes[].reality-opts.short-id is required"
  return .vless ⟨server,port,uuid,serverName,publicKey,shortId⟩

def loadExecutionConfig : Except String EgressNodeConfig :=
  match node.kind with
  | "direct" => .ok .direct
  | "shadowsocks" | "ss" => node.loadShadowsocks
  | "trojan" => node.loadTrojan
  | "vless" => node.loadVless
  | "vmess" => node.loadVmess
  | _ => .error s!"forwarding.nodes[].type unsupported: {node.kind}"

def tlsServerName : Option String := (node.sni <|> node.servername).map asciiLowercase

def shadowsocksParts : List (String × String) :=
  [("method",(node.method <|> node.cipher).getD ""),("password",node.password.getD "")]

def trojanParts : List (String × String) :=
  [("password",node.password.getD ""),("sni",node.tlsServerName.getD "")]

def vmessParts : List (String × String) :=
  [("uuid",node.uuid.getD ""),("cipher",node.cipher.getD "auto"),
    ("alterId",(node.alterId.map fun alterId => toString alterId.toNat).getD "0")]

def vlessParts : List (String × String) :=
  [("uuid",node.uuid.getD ""),("flow",node.flow.getD ""),("servername",node.tlsServerName.getD "")] ++
    match node.realityOpts with
    | none => []
    | some reality =>
      [("reality.public-key",reality.publicKey.getD ""),("reality.short-id",reality.shortId.getD "")]

def fingerprintKind : String := if node.kind = "ss" then "shadowsocks" else node.kind

def fingerprintParts : List (String × String) :=
  [("type",node.fingerprintKind),("ipv6",toString (node.ipv6.getD true)),
    ("server",asciiLowercase (node.server.getD "")),
    ("port",(node.port.map fun port => toString port.toNat).getD "")] ++
    match node.fingerprintKind with
    | "shadowsocks" => node.shadowsocksParts
    | "trojan" => node.trojanParts
    | "vmess" => node.vmessParts
    | "vless" => node.vlessParts
    | _ => []

/-- Everything that the hasher is fed. -/
def fingerprintText : String :=
  String.join (node.fingerprintParts.map fun (key,value) => key ++ "=" ++ value ++ "\n")

def stableFingerprint (sha256 : String → String) : String :=
  "node-config-sha256:" ++ sha256 node.fingerprintText

def loadExecutionNode (sha256 : String → String) : Except String (ForwardNode × EgressNodeConfig) := do
  let id ← nonEmpty "forwarding.nodes[].id" node.id
  let config ← node.loadExecutionConfig
  let loaded := ForwardNode.withFingerprint id node.kind (node.enabled.getD true) (node.stableFingerprint sha256)
  return (loaded.withCapabilities (node.ipv6.getD true),config)

/-- What the graph of groups sees of a loaded node. -/
def Declares (loaded : ForwardNode) : Prop :=
  loaded.id.value = node.id ∧ loaded.enabled = node.enabled.getD true

theorem loadExecutionNode_declares {sha256 : String → String} {loaded : ForwardNode}
    {config : EgressNodeConfig} (ok : node.loadExecutionNode sha256 = .ok (loaded,config)) :
    node.Declares loaded := by
  obtain ⟨id,named,rest⟩ := (bind_ok_iff _ _ _).mp ok
  obtain ⟨_,_,done⟩ := (bind_ok_iff _ _ _).mp rest
  cases done
  exact ⟨((nonEmpty_ok_iff _ _ _).mp named).2,rfl⟩

theorem loadExecutionNode_any {sha256 : String → String} {loaded : ForwardNode}
    {config : EgressNodeConfig} (ok : node.loadExecutionNode sha256 = .ok (loaded,config))
    (digest : String → String) :
    node.loadExecutionNode digest = .ok ({loaded with fingerprint := node.stableFingerprint digest},config) := by
  obtain ⟨id,named,rest⟩ := (bind_ok_iff _ _ _).mp ok
  obtain ⟨_,executed,done⟩ := (bind_ok_iff _ _ _).mp rest
  cases done
  rw [loadExecutionNode,named,ok_bind,executed]
  rfl

end FileForwardNodeConfig
end Dynet.State
