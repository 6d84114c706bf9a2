import DatagramTls.Algorithm

/-!
Cipher suites. Each suite has the number and the name of its registry, the key exchange that it
agrees keys with, and the registry's word on whether it is recommended. What a suite needs follows
from the key exchange alone.
-/

namespace DatagramTls

inductive KeyExchange where
  | null
  | psk
  | ecdhePsk
  | ecdhe (certificate : KeyFamily)
  | ecdhAnonymous
  deriving DecidableEq

namespace KeyExchange

def certificateFamily? : KeyExchange → Option KeyFamily
  | .ecdhe family => some family
  | .null | .psk | .ecdhePsk | .ecdhAnonymous => none

def usesPsk : KeyExchange → Bool
  | .psk | .ecdhePsk => true
  | .null | .ecdhe _ | .ecdhAnonymous => false

def usesEcc : KeyExchange → Bool
  | .ecdhe _ | .ecdhePsk | .ecdhAnonymous => true
  | .null | .psk => false

end KeyExchange

inductive CipherSuite where
  | ecdheEcdsaAes128GcmSha256
  | ecdheEcdsaAes256GcmSha384
  | ecdheEcdsaChacha20Poly1305
  | ecdheEcdsaAes128Ccm8
  | ecdheEcdsaAes256Ccm8
  | ecdheEcdsaAes128Ccm
  | ecdheEcdsaAes256Ccm
  | ecdheEcdsaAes128CbcSha256
  | ecdheEcdsaAes256CbcSha384
  | ecdheEcdsaAes256CbcSha
  | ecdheRsaAes128GcmSha256
  | ecdheRsaAes256GcmSha384
  | ecdheRsaChacha20Poly1305
  | ecdheRsaAes128CbcSha256
  | ecdhePskAes128GcmSha256
  | ecdhePskAes256GcmSha384
  | ecdhePskChacha20Poly1305
  | ecdhePskAes128Ccm8Sha256
  | ecdhePskAes128CcmSha256
  | ecdhePskAes128CbcSha256
  | pskAes128GcmSha256
  | pskAes256GcmSha384
  | pskAes128Ccm8
  | pskAes256Ccm8
  | pskAes128Ccm
  | pskAes256Ccm
  | pskAes128CbcSha256
  | ecdhAnonAes128CbcSha
  | ecdhAnonAes256CbcSha
  | null
  deriving DecidableEq

namespace CipherSuite

structure Entry where
  code : UInt16
  name : String
  keyExchange : KeyExchange
  recommended : Bool

/-- The registry. Only suites that authenticate the server and encrypt with an authenticated cipher
are recommended. -/
def entry : CipherSuite → Entry
  | .ecdheEcdsaAes128GcmSha256 =>
      ⟨0xC02B, "TLS_ECDHE_ECDSA_WITH_AES_128_GCM_SHA256", .ecdhe .ec, true⟩
  | .ecdheEcdsaAes256GcmSha384 =>
      ⟨0xC02C, "TLS_ECDHE_ECDSA_WITH_AES_256_GCM_SHA384", .ecdhe .ec, true⟩
  | .ecdheEcdsaChacha20Poly1305 =>
      ⟨0xCCA9, "TLS_ECDHE_ECDSA_WITH_CHACHA20_POLY1305_SHA256", .ecdhe .ec, true⟩
  | .ecdheEcdsaAes128Ccm8 =>
      ⟨0xC0AE, "TLS_ECDHE_ECDSA_WITH_AES_128_CCM_8", .ecdhe .ec, true⟩
  | .ecdheEcdsaAes256Ccm8 =>
      ⟨0xC0AF, "TLS_ECDHE_ECDSA_WITH_AES_256_CCM_8", .ecdhe .ec, true⟩
  | .ecdheEcdsaAes128Ccm =>
      ⟨0xC0AC, "TLS_ECDHE_ECDSA_WITH_AES_128_CCM", .ecdhe .ec, true⟩
  | .ecdheEcdsaAes256Ccm =>
      ⟨0xC0AD, "TLS_ECDHE_ECDSA_WITH_AES_256_CCM", .ecdhe .ec, true⟩
  | .ecdheEcdsaAes128CbcSha256 =>
      ⟨0xC023, "TLS_ECDHE_ECDSA_WITH_AES_128_CBC_SHA256", .ecdhe .ec, false⟩
  | .ecdheEcdsaAes256CbcSha384 =>
      ⟨0xC024, "TLS_ECDHE_ECDSA_WITH_AES_256_CBC_SHA384", .ecdhe .ec, false⟩
  | .ecdheEcdsaAes256CbcSha =>
      ⟨0xC00A, "TLS_ECDHE_ECDSA_WITH_AES_256_CBC_SHA", .ecdhe .ec, false⟩
  | .ecdheRsaAes128GcmSha256 =>
      ⟨0xC02F, "TLS_ECDHE_RSA_WITH_AES_128_GCM_SHA256", .ecdhe .rsa, true⟩
  | .ecdheRsaAes256GcmSha384 =>
      ⟨0xC030, "TLS_ECDHE_RSA_WITH_AES_256_GCM_SHA384", .ecdhe .rsa, true⟩
  | .ecdheRsaChacha20Poly1305 =>
      ⟨0xCCA8, "TLS_ECDHE_RSA_WITH_CHACHA20_POLY1305_SHA256", .ecdhe .rsa, true⟩
  | .ecdheRsaAes128CbcSha256 =>
      ⟨0xC027, "TLS_ECDHE_RSA_WITH_AES_128_CBC_SHA256", .ecdhe .rsa, false⟩
  | .ecdhePskAes128GcmSha256 =>
      ⟨0xD001, "TLS_ECDHE_PSK_WITH_AES_128_GCM_SHA256", .ecdhePsk, true⟩
  | .ecdhePskAes256GcmSha384 =>
      ⟨0xD002, "TLS_ECDHE_PSK_WITH_AES_256_GCM_SHA384", .ecdhePsk, true⟩
  | .ecdhePskChacha20Poly1305 =>
      ⟨0xCCAC, "TLS_ECDHE_PSK_WITH_CHACHA20_POLY1305_SHA256", .ecdhePsk, true⟩
  | .ecdhePskAes128Ccm8Sha256 =>
      ⟨0xD003, "TLS_ECDHE_PSK_WITH_AES_128_CCM_8_SHA256", .ecdhePsk, true⟩
  | .ecdhePskAes128CcmSha256 =>
      ⟨0xD005, "TLS_ECDHE_PSK_WITH_AES_128_CCM_SHA256", .ecdhePsk, true⟩
  | .ecdhePskAes128CbcSha256 =>
      ⟨0xC037, "TLS_ECDHE_PSK_WITH_AES_128_CBC_SHA256", .ecdhePsk, false⟩
  | .pskAes128GcmSha256 =>
      ⟨0x00A8, "TLS_PSK_WITH_AES_128_GCM_SHA256", .psk, true⟩
  | .pskAes256GcmSha384 =>
      ⟨0x00A9, "TLS_PSK_WITH_AES_256_GCM_SHA384", .psk, true⟩
  | .pskAes128Ccm8 =>
      ⟨0xC0A8, "TLS_PSK_WITH_AES_128_CCM_8", .psk, true⟩
  | .pskAes256Ccm8 =>
      ⟨0xC0A9, "TLS_PSK_WITH_AES_256_CCM_8", .psk, true⟩
  | .pskAes128Ccm =>
      ⟨0xC0A4, "TLS_PSK_WITH_AES_128_CCM", .psk, true⟩
  | .pskAes256Ccm =>
      ⟨0xC0A5, "TLS_PSK_WITH_AES_256_CCM", .psk, true⟩
  | .pskAes128CbcSha256 =>
      ⟨0x00AE, "TLS_PSK_WITH_AES_128_CBC_SHA256", .psk, false⟩
  | .ecdhAnonAes128CbcSha =>
      ⟨0xC018, "TLS_ECDH_anon_WITH_AES_128_CBC_SHA", .ecdhAnonymous, false⟩
  | .ecdhAnonAes256CbcSha =>
      ⟨0xC019, "TLS_ECDH_anon_WITH_AES_256_CBC_SHA", .ecdhAnonymous, false⟩
  | .null =>
      ⟨0x0000, "TLS_NULL_WITH_NULL_NULL", .null, false⟩

def all : List CipherSuite :=
  [.ecdheEcdsaAes128GcmSha256, .ecdheEcdsaAes256GcmSha384, .ecdheEcdsaChacha20Poly1305,
    .ecdheEcdsaAes128Ccm8, .ecdheEcdsaAes256Ccm8, .ecdheEcdsaAes128Ccm, .ecdheEcdsaAes256Ccm,
    .ecdheEcdsaAes128CbcSha256, .ecdheEcdsaAes256CbcSha384, .ecdheEcdsaAes256CbcSha,
    .ecdheRsaAes128GcmSha256, .ecdheRsaAes256GcmSha384, .ecdheRsaChacha20Poly1305,
    .ecdheRsaAes128CbcSha256, .ecdhePskAes128GcmSha256, .ecdhePskAes256GcmSha384,
    .ecdhePskChacha20Poly1305, .ecdhePskAes128Ccm8Sha256, .ecdhePskAes128CcmSha256,
    .ecdhePskAes128CbcSha256, .pskAes128GcmSha256, .pskAes256GcmSha384, .pskAes128Ccm8,
    .pskAes256Ccm8, .pskAes128Ccm, .pskAes256Ccm, .pskAes128CbcSha256, .ecdhAnonAes128CbcSha,
    .ecdhAnonAes256CbcSha, .null]

theorem mem_all (suite : CipherSuite) : suite ∈ all := by
  cases suite <;> decide

theorem nodup_all : all.Nodup := by
  decide

def supported : List CipherSuite :=
  all.filter (· ≠ .null)

def code (suite : CipherSuite) : UInt16 :=
  suite.entry.code

def name (suite : CipherSuite) : String :=
  suite.entry.name

def keyExchange (suite : CipherSuite) : KeyExchange :=
  suite.entry.keyExchange

def isRecommended (suite : CipherSuite) : Bool :=
  suite.entry.recommended

def certificateFamily? (suite : CipherSuite) : Option KeyFamily :=
  suite.keyExchange.certificateFamily?

def usesPsk (suite : CipherSuite) : Bool :=
  suite.keyExchange.usesPsk

def usesEcc (suite : CipherSuite) : Bool :=
  suite.keyExchange.usesEcc

def usesCertificate (suite : CipherSuite) : Bool :=
  suite.certificateFamily?.isSome

/-- The suites with the wanted key exchanges in order of preference, only the recommended ones if
so asked. -/
def select (recommendedOnly : Bool) (wanted : KeyExchange → Bool) : List CipherSuite :=
  all.filter fun suite => wanted suite.keyExchange && (!recommendedOnly || suite.isRecommended)

def ofName? (name : String) : Option CipherSuite :=
  all.find? fun suite => suite.name == name

end CipherSuite

end DatagramTls
