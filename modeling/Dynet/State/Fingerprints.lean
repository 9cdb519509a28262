import Dynet.Lib.KeyedLines
import Dynet.Lib.Words
import Dynet.State.NodeConfig

/-! When two nodes share a fingerprint: which text is hashed for each, against the
configuration that each is run with. -/
namespace Dynet.State
open Dynet.Runtime Dynet.Ingress Dynet.Lib Dynet.Lib.Checks Dynet.Lib.KeyedLines

/-- A configuration up to the case of its names, with the name that a trojan node without
one asks its server for. -/
def normalise : EgressNodeConfig → EgressNodeConfig
  | .direct => .direct
  | .shadowsocks config => .shadowsocks { config with server := asciiLowercase config.server }
  | .trojan config => .trojan { config with
      server := asciiLowercase config.server
      sni := some (asciiLowercase (config.sni.getD config.server)) }
  | .vless config => .vless { config with
      server := asciiLowercase config.server
      serverName := asciiLowercase config.serverName }
  | .vmess config => .vmess { config with server := asciiLowercase config.server }

def protocol : EgressNodeConfig → String
  | .direct => "direct"
  | .shadowsocks _ => "shadowsocks"
  | .trojan _ => "trojan"
  | .vless _ => "vless"
  | .vmess _ => "vmess"

/-- What a node is dialled with. -/
structure Execution where
  ipv6 : Bool
  server : String
  port : Option UInt16
  egress : EgressNodeConfig
  deriving DecidableEq, Repr

namespace FileForwardNodeConfig

def execution (node : FileForwardNodeConfig) (config : EgressNodeConfig) : Execution :=
  ⟨node.ipv6.getD true,asciiLowercase (node.server.getD ""),node.port,normalise config⟩

/-- What the loader has read of an accepted node. -/
inductive Loads (node : FileForwardNodeConfig) : EgressNodeConfig → Prop
  | direct (kind : node.fingerprintKind = "direct") : Loads node .direct
  | shadowsocks (config : ShadowsocksConfig) (text : String) (kind : node.fingerprintKind = "shadowsocks")
      (server : node.server = some config.server) (port : node.port = some config.port)
      (method : (node.method <|> node.cipher) = some text) (parsed : parseShadowsocksMethod text = .ok config.method)
      (password : node.password = some config.password) : Loads node (.shadowsocks config)
  | trojan (config : TrojanConfig) (kind : node.fingerprintKind = "trojan") (server : node.server = some config.server)
      (port : node.port = some config.port) (password : node.password = some config.password)
      (sni : config.sni = (node.sni <|> node.servername)) (skip : config.skipCertVerify = node.skipCertVerify.getD false) :
      Loads node (.trojan config)
  | vmess (config : VmessConfig) (kind : node.fingerprintKind = "vmess") (server : node.server = some config.server)
      (port : node.port = some config.port) (uuid : node.uuid = some config.uuid) (cipher : node.cipher = some "auto")
      (alterId : node.alterId = some 0) : Loads node (.vmess config)
  | vless (config : VlessConfig) (kind : node.fingerprintKind = "vless") (server : node.server = some config.server)
      (port : node.port = some config.port) (uuid : node.uuid = some config.uuid) (flow : node.flow = some "xtls-rprx-vision")
      (sni : (node.sni <|> node.servername) = some config.serverName)
      (reality : node.realityOpts = some ⟨some config.publicKey,some config.shortId⟩) : Loads node (.vless config)

theorem agreed_ok {first second given : Option String} {disagree : String}
    (ok : agreed first second disagree = .ok given) : given = (first <|> second) := by
  cases first with
  | none =>
    cases second <;> exact (Except.ok.inj ok).symm
  | some value =>
    cases second with
    | none => exact (Except.ok.inj ok).symm
    | some other =>
      simp only [agreed] at ok
      split at ok
      · exact (Except.ok.inj ok).symm
      · cases ok

section Loads
variable {node : FileForwardNodeConfig} {config : EgressNodeConfig}

theorem loadShadowsocks_loads (kind : node.fingerprintKind = "shadowsocks") (ok : node.loadShadowsocks = .ok config) :
    node.Loads config := by
  obtain ⟨-,ok⟩ := (then_ok_iff _ _ _).mp ok
  obtain ⟨server,hasServer,ok⟩ := (bind_ok_iff _ _ _).mp ok
  obtain ⟨port,hasPort,ok⟩ := (bind_ok_iff _ _ _).mp ok
  obtain ⟨either,chosen,ok⟩ := (bind_ok_iff _ _ _).mp ok
  obtain ⟨text,hasMethod,ok⟩ := (bind_ok_iff _ _ _).mp ok
  obtain ⟨password,hasPassword,ok⟩ := (bind_ok_iff _ _ _).mp ok
  obtain ⟨method,parsed,ok⟩ := (bind_ok_iff _ _ _).mp ok
  rw [need_ok_iff] at hasServer hasPort hasMethod hasPassword
  cases ok
  exact .shadowsocks ⟨server,port,method,password⟩ text kind hasServer hasPort
    ((agreed_ok chosen).symm.trans hasMethod) parsed hasPassword

theorem loadTrojan_loads (kind : node.fingerprintKind = "trojan") (ok : node.loadTrojan = .ok config) :
    node.Loads config := by
  obtain ⟨-,ok⟩ := (then_ok_iff _ _ _).mp ok
  obtain ⟨server,hasServer,ok⟩ := (bind_ok_iff _ _ _).mp ok
  obtain ⟨port,hasPort,ok⟩ := (bind_ok_iff _ _ _).mp ok
  obtain ⟨password,hasPassword,ok⟩ := (bind_ok_iff _ _ _).mp ok
  obtain ⟨sni,chosen,ok⟩ := (bind_ok_iff _ _ _).mp ok
  rw [need_ok_iff] at hasServer hasPort hasPassword
  cases ok
  exact .trojan ⟨server,port,password,sni,_⟩ kind hasServer hasPort hasPassword (agreed_ok chosen) rfl

theorem loadVmess_loads (kind : node.fingerprintKind = "vmess") (ok : node.loadVmess = .ok config) :
    node.Loads config := by
  obtain ⟨-,ok⟩ := (then_ok_iff _ _ _).mp ok
  obtain ⟨alterId,ok⟩ := (then_ok_iff _ _ _).mp ok
  obtain ⟨cipher,ok⟩ := (then_ok_iff _ _ _).mp ok
  obtain ⟨-,ok⟩ := (then_ok_iff _ _ _).mp ok
  obtain ⟨-,ok⟩ := (then_ok_iff _ _ _).mp ok
  obtain ⟨server,hasServer,ok⟩ := (bind_ok_iff _ _ _).mp ok
  obtain ⟨port,hasPort,ok⟩ := (bind_ok_iff _ _ _).mp ok
  obtain ⟨uuid,hasUuid,ok⟩ := (bind_ok_iff _ _ _).mp ok
  rw [need_ok_iff] at hasServer hasPort hasUuid
  rw [ensure_ok_iff] at alterId cipher
  cases ok
  exact .vmess ⟨server,port,uuid⟩ kind hasServer hasPort hasUuid cipher alterId

theorem loadVless_loads (kind : node.fingerprintKind = "vless") (ok : node.loadVless = .ok config) :
    node.Loads config := by
  obtain ⟨-,ok⟩ := (then_ok_iff _ _ _).mp ok
  obtain ⟨flow,ok⟩ := (then_ok_iff _ _ _).mp ok
  obtain ⟨-,ok⟩ := (then_ok_iff _ _ _).mp ok
  obtain ⟨-,ok⟩ := (then_ok_iff _ _ _).mp ok
  obtain ⟨-,ok⟩ := (then_ok_iff _ _ _).mp ok
  obtain ⟨server,hasServer,ok⟩ := (bind_ok_iff _ _ _).mp ok
  obtain ⟨port,hasPort,ok⟩ := (bind_ok_iff _ _ _).mp ok
  obtain ⟨uuid,hasUuid,ok⟩ := (bind_ok_iff _ _ _).mp ok
  obtain ⟨either,chosen,ok⟩ := (bind_ok_iff _ _ _).mp ok
  obtain ⟨name,named,ok⟩ := (bind_ok_iff _ _ _).mp ok
  obtain ⟨reality,hasReality,ok⟩ := (bind_ok_iff _ _ _).mp ok
  obtain ⟨publicKey,hasKey,ok⟩ := (bind_ok_iff _ _ _).mp ok
  obtain ⟨shortId,hasShort,ok⟩ := (bind_ok_iff _ _ _).mp ok
  rw [need_ok_iff] at hasServer hasPort hasUuid named hasReality hasKey hasShort
  rw [ensure_ok_iff] at flow
  cases ok
  obtain ⟨key,short⟩ := reality
  cases hasKey
  cases hasShort
  exact .vless ⟨server,port,uuid,name,publicKey,shortId⟩ kind hasServer hasPort hasUuid flow
    ((agreed_ok chosen).symm.trans named) hasReality

theorem accepted_loads {sha256 : String → String} {loaded : ForwardNode}
    (ok : node.loadExecutionNode sha256 = .ok (loaded,config)) : node.Loads config := by
  obtain ⟨_,_,ok⟩ := (bind_ok_iff _ _ _).mp ok
  obtain ⟨given,ok,made⟩ := (bind_ok_iff _ _ _).mp ok
  cases made
  have plain {kind : String} (named : node.kind = kind) (other : kind ≠ "ss") : node.fingerprintKind = kind := by
    rw [fingerprintKind,named,if_neg other]
  unfold loadExecutionConfig at ok
  split at ok
  · rename_i kind
    cases ok
    exact .direct (plain kind (by decide))
  · rename_i kind
    exact loadShadowsocks_loads (plain kind (by decide)) ok
  · rename_i kind
    exact loadShadowsocks_loads (by rw [fingerprintKind,if_pos kind]) ok
  · rename_i kind
    exact loadTrojan_loads (plain kind (by decide)) ok
  · rename_i kind
    exact loadVless_loads (plain kind (by decide)) ok
  · rename_i kind
    exact loadVmess_loads (plain kind (by decide)) ok
  · cases ok

theorem Loads.kind_eq (loads : node.Loads config) : node.fingerprintKind = protocol config := by
  cases loads <;> assumption

end Loads

def keysOf : EgressNodeConfig → List String
  | .direct => ["type","ipv6","server","port"]
  | .shadowsocks _ => ["type","ipv6","server","port","method","password"]
  | .trojan _ => ["type","ipv6","server","port","password","sni"]
  | .vless _ => ["type","ipv6","server","port","uuid","flow","servername","reality.public-key","reality.short-id"]
  | .vmess _ => ["type","ipv6","server","port","uuid","cipher","alterId"]

theorem keysOf_free (config : EgressNodeConfig) : ∀ key ∈ keysOf config, '\n' ∉ key.toList := by
  cases config
  all_goals
    simp only [keysOf]
    decide

theorem Loads.keys {node : FileForwardNodeConfig} {config : EgressNodeConfig} (loads : node.Loads config) :
    node.fingerprintParts.map (·.1) = keysOf config := by
  cases loads with
  | direct kind => simp [fingerprintParts,kind,keysOf]
  | shadowsocks config text kind => simp [fingerprintParts,kind,keysOf,shadowsocksParts]
  | trojan config kind => simp [fingerprintParts,kind,keysOf,trojanParts]
  | vmess config kind => simp [fingerprintParts,kind,keysOf,vmessParts]
  | vless config kind _ _ _ _ _ reality => simp [fingerprintParts,kind,keysOf,vlessParts,reality]

theorem portText_inj (first second : Option UInt16) :
    (first.map fun port => toString port.toNat).getD "" = (second.map fun port => toString port.toNat).getD "" ↔
      first = second := by
  have read (port : UInt16) : Text.parseUnsigned (2^16) (toString port.toNat) = some port.toNat :=
    (Text.parseUnsigned_toString _ _).trans (if_pos port.toNat_lt)
  have nonempty (port : UInt16) : toString port.toNat ≠ "" := by
    intro empty
    have value := read port
    rw [empty] at value
    cases value
  constructor
  · intro same
    cases first with
    | none =>
      cases second with
      | none => rfl
      | some port => exact absurd same.symm (nonempty port)
    | some port =>
      cases second with
      | none => exact absurd same (nonempty port)
      | some other =>
        have values := congrArg (Text.parseUnsigned (2^16)) same
        simp only [Option.map_some,Option.getD_some,read,Option.some.injEq] at values
        rw [UInt16.toNat_inj.mp values]
  · rintro rfl
    rfl

theorem flagText_inj (first second : Bool) : toString first = toString second ↔ first = second := by
  cases first <;> cases second <;> decide

theorem methodText_inj {first second : String} {left right : ShadowsocksMethod}
    (read : parseShadowsocksMethod first = .ok left) (other : parseShadowsocksMethod second = .ok right) :
    first = second ↔ left = right := by
  constructor
  · rintro rfl
    exact Except.ok.inj (read.symm.trans other)
  · rintro rfl
    unfold parseShadowsocksMethod at read other
    split at read
    · cases read
      split at other
      · rfl
      · cases other
      · cases other
    · cases read
      split at other
      · cases other
      · rfl
      · cases other
    · cases read

def headParts (node : FileForwardNodeConfig) : List (String × String) :=
  [("type",node.fingerprintKind),("ipv6",toString (node.ipv6.getD true)),
    ("server",asciiLowercase (node.server.getD "")),
    ("port",(node.port.map fun port => toString port.toNat).getD "")]

def ownParts (node : FileForwardNodeConfig) : List (String × String) :=
  match node.fingerprintKind with
  | "shadowsocks" => node.shadowsocksParts
  | "trojan" => node.trojanParts
  | "vmess" => node.vmessParts
  | "vless" => node.vlessParts
  | _ => []

theorem parts_append (node : FileForwardNodeConfig) : node.fingerprintParts = node.headParts ++ node.ownParts := rfl

section Pairs
variable {first second : FileForwardNodeConfig} {left right : EgressNodeConfig}

/-- Both nodes dial the same place. -/
structure SameHead (first second : FileForwardNodeConfig) : Prop where
  ipv6 : first.ipv6.getD true = second.ipv6.getD true
  server : asciiLowercase (first.server.getD "") = asciiLowercase (second.server.getD "")
  port : first.port = second.port

/-- Among trojan nodes that differ in their names at most: the hashed name is the given one,
with nothing in place of an absent one, and the certificate check is not hashed. -/
def NamesTold (first second : FileForwardNodeConfig) : Prop :=
  let skips := first.skipCertVerify.getD false = second.skipCertVerify.getD false
  let server := asciiLowercase (first.server.getD "")
  match first.tlsServerName,second.tlsServerName with
  | some name,some other => name = other → skips
  | none,none => skips
  | some name,none | none,some name => if name = "" then server = "" ∧ skips else ¬ (name = server ∧ skips)

/-- No value runs over into the next line, and the names of trojan nodes are told apart. -/
structure Told (first second : FileForwardNodeConfig) : Prop where
  forward : ¬ Spills first.fingerprintParts second.fingerprintParts
  backward : ¬ Spills second.fingerprintParts first.fingerprintParts
  names : first.kind = "trojan" → second.kind = "trojan" → SameHead first second → first.password = second.password →
    NamesTold first second

theorem headParts_iff (kinds : first.fingerprintKind = second.fingerprintKind) :
    first.headParts = second.headParts ↔ SameHead first second := by
  simp only [headParts,kinds,List.cons.injEq,Prod.mk.injEq,true_and,and_true,flagText_inj,portText_inj]
  exact ⟨fun ⟨ipv6,server,port⟩ => ⟨ipv6,server,port⟩,fun ⟨ipv6,server,port⟩ => ⟨ipv6,server,port⟩⟩

theorem parts_iff (kinds : first.fingerprintKind = second.fingerprintKind) :
    first.fingerprintParts = second.fingerprintParts ↔ SameHead first second ∧ first.ownParts = second.ownParts := by
  rw [← headParts_iff kinds,parts_append,parts_append]
  exact ⟨fun same => List.append_inj same rfl,fun ⟨head,own⟩ => by rw [head,own]⟩

theorem execution_iff : first.execution left = second.execution right ↔
    SameHead first second ∧ normalise left = normalise right := by
  simp only [execution,Execution.mk.injEq]
  exact ⟨fun ⟨ipv6,server,port,egress⟩ => ⟨⟨ipv6,server,port⟩,egress⟩,fun ⟨⟨ipv6,server,port⟩,egress⟩ => ⟨ipv6,server,port,egress⟩⟩

theorem ownParts_iff (loads : first.Loads left) (others : second.Loads right) (same : protocol left = protocol right)
    (plain : protocol left ≠ "trojan") (head : SameHead first second) :
    first.ownParts = second.ownParts ↔ normalise left = normalise right := by
  obtain ⟨-,servers,ports⟩ := head
  cases loads with
  | direct kind =>
    cases others with
    | direct other => simp [ownParts,kind,other,normalise]
    | _ => simp [protocol] at same
  | shadowsocks config text kind server port method parsed password =>
    cases others with
    | shadowsocks config' text' kind' server' port' method' parsed' password' =>
      rw [server,server',Option.getD_some,Option.getD_some] at servers
      rw [port,port',Option.some_inj] at ports
      simp [ownParts,kind,kind',shadowsocksParts,method,method',password,password',methodText_inj parsed parsed',normalise,
        servers,ports]
    | _ => simp [protocol] at same
  | trojan config kind => exact absurd rfl plain
  | vmess config kind server port uuid cipher alterId =>
    cases others with
    | vmess config' kind' server' port' uuid' cipher' alterId' =>
      rw [server,server',Option.getD_some,Option.getD_some] at servers
      rw [port,port',Option.some_inj] at ports
      simp [ownParts,kind,kind',vmessParts,uuid,uuid',cipher,cipher',alterId,alterId',normalise,servers,ports]
    | _ => simp [protocol] at same
  | vless config kind server port uuid flow sni reality =>
    cases others with
    | vless config' kind' server' port' uuid' flow' sni' reality' =>
      rw [server,server',Option.getD_some,Option.getD_some] at servers
      rw [port,port',Option.some_inj] at ports
      simp [ownParts,kind,kind',vlessParts,uuid,uuid',flow,flow',tlsServerName,sni,sni',reality,reality',normalise,servers,ports]
    | _ => simp [protocol] at same

theorem namesTold_iff : NamesTold first second ↔
    (first.tlsServerName.getD "" = second.tlsServerName.getD "" ↔
      first.tlsServerName.getD (asciiLowercase (first.server.getD "")) =
        second.tlsServerName.getD (asciiLowercase (first.server.getD "")) ∧
      first.skipCertVerify.getD false = second.skipCertVerify.getD false) := by
  unfold NamesTold
  generalize asciiLowercase (first.server.getD "") = server
  generalize first.skipCertVerify.getD false = left
  generalize second.skipCertVerify.getD false = right
  cases first.tlsServerName with
  | none =>
    cases second.tlsServerName with
    | none => simp
    | some name =>
      simp only [Option.getD_none,Option.getD_some]
      split
      · grind
      · grind
  | some name =>
    cases second.tlsServerName with
    | none =>
      simp only [Option.getD_none,Option.getD_some]
      split
      · grind
      · grind
    | some other => simp

section Trojan
variable {config other : TrojanConfig} (loads : first.Loads (.trojan config)) (others : second.Loads (.trojan other))
include loads others

theorem trojan_own_iff : first.ownParts = second.ownParts ↔
    first.password = second.password ∧ first.tlsServerName.getD "" = second.tlsServerName.getD "" := by
  cases loads with
  | trojan _ kind server port password sni skip =>
    cases others with
    | trojan _ kind' server' port' password' sni' skip' => simp [ownParts,kind,kind',trojanParts,password,password']

theorem trojan_normalise_iff (head : SameHead first second) :
    normalise (.trojan config) = normalise (.trojan other) ↔ first.password = second.password ∧
      first.tlsServerName.getD (asciiLowercase (first.server.getD "")) =
        second.tlsServerName.getD (asciiLowercase (first.server.getD "")) ∧
      first.skipCertVerify.getD false = second.skipCertVerify.getD false := by
  obtain ⟨-,servers,ports⟩ := head
  cases loads with
  | trojan _ kind server port password sni skip =>
    cases others with
    | trojan _ kind' server' port' password' sni' skip' =>
      have name (given : Option String) (fallback : String) :
          (given.map asciiLowercase).getD (asciiLowercase fallback) = asciiLowercase (given.getD fallback) := by
        cases given <;> rfl
      rw [server,server',Option.getD_some,Option.getD_some] at servers
      rw [port,port',Option.some_inj] at ports
      rw [tlsServerName,tlsServerName,← sni,← sni',server,Option.getD_some,name]
      rw [servers,name]
      simp [normalise,servers,ports,password,password',skip,skip']

end Trojan

theorem fingerprintText_apart (kinds : first.fingerprintKind ≠ second.fingerprintKind)
    (free : '\n' ∉ first.fingerprintKind.toList) (whole : '\n' ∉ second.fingerprintKind.toList) :
    first.fingerprintText ≠ second.fingerprintText := by
  intro same
  change keyed (_::_) = keyed (_::_) at same
  rw [keyed_cons,keyed_cons,String.append_right_inj,String.append_right_inj,Words.line_inj free whole] at same
  exact kinds same.1

theorem protocol_normalise (config : EgressNodeConfig) : protocol (normalise config) = protocol config := by
  cases config <;> rfl

theorem protocol_free (config : EgressNodeConfig) : '\n' ∉ (protocol config).toList := by
  cases config
  all_goals
    simp only [protocol]
    decide

theorem keysOf_protocol (kinds : protocol left = protocol right) : keysOf left = keysOf right := by
  cases left <;> cases right <;> first | rfl | simp [protocol] at kinds

/-- Equal configurations have equal lines but for a name, which is hashed last. -/
theorem execution_unspilled (loads : first.Loads left) (others : second.Loads right)
    (runs : first.execution left = second.execution right) :
    ¬ Spills first.fingerprintParts second.fingerprintParts := by
  obtain ⟨head,egress⟩ := execution_iff.mp runs
  have kinds : protocol left = protocol right := by
    have same := congrArg protocol egress
    rwa [protocol_normalise,protocol_normalise] at same
  have sameKind : first.fingerprintKind = second.fingerprintKind := by
    rw [loads.kind_eq,others.kind_eq,kinds]
  intro spills
  refine spills_ne spills ((parts_iff sameKind).mpr ⟨head,?_⟩)
  by_cases plain : protocol left = "trojan"
  · cases left with
    | trojan config =>
      cases right with
      | trojan other =>
        have password := ((trojan_normalise_iff loads others head).mp egress).1
        refine (trojan_own_iff loads others).mpr ⟨password,?_⟩
        have trojan : second.fingerprintKind = "trojan" := others.kind_eq
        have last (node : FileForwardNodeConfig) (kind : node.fingerprintKind = "trojan") : node.fingerprintParts =
            (node.headParts ++ [("password",node.password.getD "")]) ++ [("sni",node.tlsServerName.getD "")] := by
          rw [parts_append,List.append_assoc]
          simp [ownParts,kind,trojanParts]
        have same := spills_keyed spills
        rw [last first (sameKind.trans trojan),last second trojan,(headParts_iff sameKind).mpr head,password] at same
        exact keyed_last same
      | _ => simp [protocol] at kinds
    | _ => simp [protocol] at plain
  · exact (ownParts_iff loads others kinds plain head).mpr egress

theorem parts_execution_iff (loads : first.Loads left) (others : second.Loads right) (kinds : protocol left = protocol right) :
    (first.fingerprintParts = second.fingerprintParts ↔ first.execution left = second.execution right) ↔
      (first.kind = "trojan" → second.kind = "trojan" → SameHead first second → first.password = second.password →
        NamesTold first second) := by
  have sameKind : first.fingerprintKind = second.fingerprintKind := by
    rw [loads.kind_eq,others.kind_eq,kinds]
  rw [parts_iff sameKind,execution_iff]
  by_cases plain : protocol left = "trojan"
  · cases left with
    | trojan config =>
      cases right with
      | trojan other =>
        have named (node : FileForwardNodeConfig) (kind : node.fingerprintKind = "trojan") : node.kind = "trojan" := by
          unfold fingerprintKind at kind
          split at kind
          · exact absurd kind (by decide)
          · exact kind
        have own := named first loads.kind_eq
        have twin := named second others.kind_eq
        rw [namesTold_iff,and_congr_right fun head : SameHead first second => trojan_normalise_iff loads others head,
          trojan_own_iff loads others]
        constructor
        · intro same _ _ head password
          simpa [head,password] using same
        · intro told
          by_cases both : SameHead first second ∧ first.password = second.password
          · simpa [both.1,both.2] using told own twin both.1 both.2
          · refine iff_of_false (fun equal => both ⟨equal.1,equal.2.1⟩) fun equal => both ⟨equal.1,equal.2.1⟩
      | _ => simp [protocol] at kinds
    | _ => simp [protocol] at plain
  · refine iff_of_true (and_congr_right fun head => ownParts_iff loads others kinds plain head) fun trojan => ?_
    rw [← loads.kind_eq,fingerprintKind,trojan] at plain
    exact absurd rfl plain

theorem fingerprint_told (loads : first.Loads left) (others : second.Loads right) :
    (first.fingerprintText = second.fingerprintText ↔ first.execution left = second.execution right) ↔ Told first second := by
  by_cases kinds : protocol left = protocol right
  · have free : ∀ part ∈ first.fingerprintParts, '\n' ∉ part.1.toList := by
      intro part listed
      refine keysOf_free left part.1 ?_
      rw [← loads.keys]
      exact List.mem_map_of_mem listed
    have texts : first.fingerprintText = second.fingerprintText ↔ first.fingerprintParts = second.fingerprintParts ∨
        Spills first.fingerprintParts second.fingerprintParts ∨ Spills second.fingerprintParts first.fingerprintParts :=
      keyed_eq_iff _ _ (loads.keys.trans ((keysOf_protocol kinds).trans others.keys.symm)) free
    have agree := parts_execution_iff loads others kinds
    constructor
    · intro same
      have forward : ¬ Spills first.fingerprintParts second.fingerprintParts := fun spills =>
        execution_unspilled loads others (same.mp (texts.mpr (.inr (.inl spills)))) spills
      have backward : ¬ Spills second.fingerprintParts first.fingerprintParts := fun spills =>
        execution_unspilled others loads (same.mp (texts.mpr (.inr (.inr spills)))).symm spills
      refine ⟨forward,backward,agree.mp ?_⟩
      rw [← same,texts]
      simp [forward,backward]
    · rintro ⟨forward,backward,names⟩
      rw [texts,← agree.mpr names]
      simp [forward,backward]
  · have apart : first.fingerprintKind ≠ second.fingerprintKind := by
      rw [loads.kind_eq,others.kind_eq]
      exact kinds
    have texts : first.fingerprintText ≠ second.fingerprintText :=
      fingerprintText_apart apart (loads.kind_eq ▸ protocol_free left) (others.kind_eq ▸ protocol_free right)
    have runs : first.execution left ≠ second.execution right := by
      intro same
      have egress := congrArg protocol (execution_iff.mp same).2
      rw [protocol_normalise,protocol_normalise] at egress
      exact kinds egress
    refine iff_of_true (iff_of_false texts runs) ⟨fun spills => texts (spills_keyed spills),
      fun spills => texts (spills_keyed spills).symm,fun trojan other => ?_⟩
    exact absurd (by rw [fingerprintKind,fingerprintKind,trojan,other]) apart

/-- Which accepted nodes the hashed texts tell apart as their configurations do. -/
theorem fingerprints_iff {sha256 : String → String} {loaded declared : ForwardNode}
    (accepted : first.loadExecutionNode sha256 = .ok (loaded,left))
    (others : second.loadExecutionNode sha256 = .ok (declared,right)) :
    (first.fingerprintText = second.fingerprintText ↔ first.execution left = second.execution right) ↔ Told first second :=
  fingerprint_told (accepted_loads accepted) (accepted_loads others)

end Pairs

section Sample

def verified : FileForwardNodeConfig where
  id := "proxy-1"
  kind := "trojan"
  server := some "proxy.example"
  port := some 443
  password := some "secret"
  sni := some "front.example"
  udp := some true

def unverified : FileForwardNodeConfig := { verified with skipCertVerify := some true }

def unhashed (text : String) : String := text

def loadedConfig (skip : Bool) : EgressNodeConfig := .trojan ⟨"proxy.example",443,"secret",some "front.example",skip⟩

theorem verified_accepted : verified.loadExecutionNode unhashed = .ok
    ((ForwardNode.withFingerprint "proxy-1" "trojan" true (verified.stableFingerprint unhashed)).withCapabilities true,
      loadedConfig false) := rfl

theorem unverified_accepted : unverified.loadExecutionNode unhashed = .ok
    ((ForwardNode.withFingerprint "proxy-1" "trojan" true (unverified.stableFingerprint unhashed)).withCapabilities true,
      loadedConfig true) := rfl

theorem verified_shared : verified.fingerprintText = unverified.fingerprintText ∧
    verified.execution (loadedConfig false) ≠ unverified.execution (loadedConfig true) := by
  refine ⟨rfl,?_⟩
  simp [execution,loadedConfig,normalise]

/-- Without the check of the certificate the node keeps its fingerprint. -/
theorem unverified_shares : (∃ loaded, verified.loadExecutionNode unhashed = .ok (loaded,loadedConfig false)) ∧
    (∃ loaded, unverified.loadExecutionNode unhashed = .ok (loaded,loadedConfig true)) ∧
    ¬ (verified.fingerprintText = unverified.fingerprintText ↔
      verified.execution (loadedConfig false) = unverified.execution (loadedConfig true)) :=
  ⟨⟨_,verified_accepted⟩,⟨_,unverified_accepted⟩,fun same => verified_shared.2 (same.mp verified_shared.1)⟩

theorem unverified_untold : ¬ Told verified unverified := fun told =>
  verified_shared.2 (((fingerprints_iff verified_accepted unverified_accepted).mpr told).mp verified_shared.1)

end Sample

end FileForwardNodeConfig
end Dynet.State
