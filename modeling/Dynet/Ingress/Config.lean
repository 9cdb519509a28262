import Dynet.Runtime.Model

/-! Configuration of the inbounds and of the egress nodes. -/
namespace Dynet.Ingress
open Dynet.Runtime

def udpIdleTimeout : Duration := .fromSecs 30
def defaultTcpMaxSessions : Nat := 1024
def defaultUdpMaxSessions : Nat := 1024
def defaultSocks5MaxSessions : Nat := 1024
def defaultDnsMaxSessions : Nat := 256

structure DnsRelayConfig where
  bind : SocketAddr
  maxSessions : Nat
  deriving DecidableEq, Repr

structure TcpRelayConfig where
  bind : SocketAddr
  upstream : SocketAddr
  maxSessions : Nat
  deriving DecidableEq, Repr

structure UdpRelayConfig where
  bind : SocketAddr
  upstream : SocketAddr
  idleTimeout : Duration
  maxSessions : Nat
  deriving DecidableEq, Repr

structure Socks5IngressConfig where
  bind : SocketAddr
  udpAdvertiseIp : Option IpAddr
  idleTimeout : Duration
  maxSessions : Nat
  deriving DecidableEq, Repr

structure IngressConfig where
  dns : DnsRelayConfig
  tcp : TcpRelayConfig
  udp : UdpRelayConfig
  socks5 : Socks5IngressConfig
  deriving DecidableEq, Repr

def IngressConfig.default : IngressConfig where
  dns := ⟨.v4 0x7f000001 1053,defaultDnsMaxSessions⟩
  tcp := ⟨.v4 0x7f000001 18080,.v4 0x5db8d822 80,defaultTcpMaxSessions⟩
  udp := ⟨.v4 0x7f000001 18443,.v4 0x01010101 443,udpIdleTimeout,defaultUdpMaxSessions⟩
  socks5 := ⟨.v4 0x7f000001 11080,none,udpIdleTimeout,defaultSocks5MaxSessions⟩

inductive ShadowsocksMethod where
  | aes256Gcm
  | blake3Aes128Gcm2022
  deriving DecidableEq, Repr

structure ShadowsocksConfig where
  server : String
  port : UInt16
  method : ShadowsocksMethod
  password : String
  deriving DecidableEq, Repr

structure TrojanConfig where
  server : String
  port : UInt16
  password : String
  sni : Option String
  skipCertVerify : Bool
  deriving DecidableEq, Repr

structure VmessConfig where
  server : String
  port : UInt16
  uuid : String
  deriving DecidableEq, Repr

structure VlessConfig where
  server : String
  port : UInt16
  uuid : String
  serverName : String
  publicKey : String
  shortId : String
  deriving DecidableEq, Repr

inductive EgressNodeConfig where
  | direct
  | shadowsocks (config : ShadowsocksConfig)
  | trojan (config : TrojanConfig)
  | vless (config : VlessConfig)
  | vmess (config : VmessConfig)
  deriving DecidableEq, Repr

end Dynet.Ingress
