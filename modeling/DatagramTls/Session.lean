import DatagramTls.Build
import DatagramTls.Options.Request
import DatagramTls.Options.Slot

/-!
Sessions: options worked on step by step, the configurations built from them so far, and the
provider installed for the host. A step that fails changes nothing.
-/

namespace DatagramTls

structure Session where
  hostCores : UInt64
  options : Options := .unset
  configs : List Config := []
  installed : Option Provider := none

namespace Session

inductive Target where
  | host
  | given (platform : Platform)

inductive Step where
  | request (request : Request)
  | renew
  | build (target : Target)
  | reopen (index : Nat)
  | compare (first second : Nat)
  | install (provider : Provider)

inductive Answer where
  | options (options : Options)
  | refused (error : OptionError)
  | built (index : Nat) (attempt : Build.Attempt Config)
  | noConfig
  | compared (same : Bool)
  | installed
  | alreadyInstalled (rejected : Provider)

def host (session : Session) : Platform :=
  .host session.hostCores session.installed

def platform (session : Session) : Target → Platform
  | .host => session.host
  | .given platform => platform

def build (session : Session) (target : Target) : Session × Answer :=
  let attempt := session.options.build (session.platform target)
  let answer := .built session.configs.length attempt
  match attempt.result with
  | .ok config => ({ session with configs := session.configs ++ [config] }, answer)
  | .error _ => (session, answer)

def step (session : Session) : Step → Session × Answer
  | .request request =>
      match session.options.request request with
      | .ok options => ({ session with options }, .options options)
      | .error error => (session, .refused error)
  | .renew => ({ session with options := .unset }, .options .unset)
  | .build target => session.build target
  | .reopen index =>
      match session.configs[index]? with
      | some config => ({ session with options := config.reopen }, .options config.reopen)
      | none => (session, .noConfig)
  | .compare first second =>
      match session.configs[first]?, session.configs[second]? with
      | some left, some right => (session, .compared (left.same right))
      | _, _ => (session, .noConfig)
  | .install provider =>
      match session.installed with
      | none => ({ session with installed := some provider }, .installed)
      | some _ => (session, .alreadyInstalled provider)

def run (session : Session) (steps : List Step) : Session :=
  steps.foldl (fun session step => (session.step step).1) session

end Session

end DatagramTls
