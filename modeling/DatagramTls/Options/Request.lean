import DatagramTls.Options.Objection

/-!
Requests: settings as they are asked for, with values or with names. Names of algorithms are
trimmed before they are looked up, and the first unknown name is reported as it was looked up; the
name of a handshake mode is taken as it is.
-/

namespace DatagramTls

inductive NamedSetting where
  | suites (names : List String)
  | preselected (names : List String)
  | schemes (names : List String)
  | groups (names : List String)
  | handshakeMode (name : String)

namespace NamedSetting

def lookUp {α : Type} (named : Named) (ofName? : String → Option α) (name : String) :
    Except OptionError α :=
  match ofName? name with
  | some value => .ok value
  | none => .error (.unknownName named name)

def lookUpAll {α : Type} (named : Named) (ofName? : String → Option α) (names : List String) :
    Except OptionError (List α) :=
  names.mapM fun name => lookUp named ofName? (Text.trim name)

def setting : NamedSetting → Except OptionError Setting
  | .suites names =>
      (lookUpAll .suite CipherSuite.ofName? names).map fun suites => .algorithms (.suites suites)
  | .preselected names =>
      (lookUpAll .suite CipherSuite.ofName? names).map
        fun suites => .algorithms (.preselected suites)
  | .schemes names =>
      (lookUpAll .scheme Scheme.ofName? names).map fun schemes => .algorithms (.schemes schemes)
  | .groups names =>
      (lookUpAll .group Group.ofName? names).map fun groups => .algorithms (.groups groups)
  | .handshakeMode name =>
      (lookUp .handshakeMode HandshakeMode.ofName? name).map
        fun mode => .role (.handshakeMode mode)

end NamedSetting

inductive Request where
  | byValue (setting : Setting)
  | byName (setting : NamedSetting)

def Request.setting : Request → Except OptionError Setting
  | .byValue setting => .ok setting
  | .byName named => named.setting

def Options.request (options : Options) (request : Request) : Except OptionError Options := do
  options.set (← request.setting)

theorem Options.request_eq_ok_iff {options result : Options} {request : Request} :
    options.request request = .ok result ↔
      ∃ setting, request.setting = .ok setting ∧ options.objection? setting = none ∧
        result = options.store setting := by
  unfold Options.request
  cases request.setting with
  | error error => simp [bind, Except.bind]
  | ok setting => simp [bind, Except.bind, Options.set_eq_ok_iff]

end DatagramTls
