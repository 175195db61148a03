import AccessTrail.Handler.Program

namespace AccessTrail.Demo

def greeting : Bytes := Utf8.ofString "request-logger is up\n"

inductive Problem
  | noRoute : (path : String) → Problem
  | methodNotAllowed : Http.Method → Problem
  | upgradeMissing
  | refused : Refusal → Problem
  deriving DecidableEq

namespace Problem

def text : Problem → String
  | noRoute path => "no route for " ++ path
  | methodNotAllowed m => "method " ++ m.text ++ " not allowed"
  | upgradeMissing => "echo needs an Upgrade header"
  | refused r => r.text

def status : Problem → Http.Status
  | noRoute _ => .notFound
  | methodNotAllowed _ => .methodNotAllowed
  | upgradeMissing => .upgradeRequired
  | refused _ => .notImplemented

def report (p : Problem) : Program := .step (.fail p.status ⟨p.text, []⟩) fun _ => .done

end Problem

def greet : Program :=
  .step (.edit (·.set "content-type" (Utf8.ofString "text/plain; charset=utf-8"))) fun _ =>
  .step (.writeAll greeting) fun
    | .failed f => .step (.note (.clientGone f.text)) fun _ => .done
    | _ => .done

def echoOn : Http.Handover → Program
  | .broken reason => .step (.note (.upgradeFailed reason)) fun _ => .done
  | .opened incoming =>
    .step (.sendRaw incoming) fun _ => .step (.note (.echoDone incoming.length)) fun _ => .done

def switchHeaders (protocol : Bytes) (h : Http.Headers) : Http.Headers :=
  (h.set "connection" (Utf8.ofString "upgrade")).set "upgrade" protocol

def echo (protocol : Bytes) : Program :=
  .step .handOver fun
    | .refused r => (Problem.refused r).report
    | .handedOver h =>
      .step (.edit (switchHeaders protocol)) fun _ =>
      .step (.sendHead .switchingProtocols) fun _ => echoOn h
    | _ => .done

def handler : Handler := fun r =>
  let path := r.uri.path
  if path = ['/'] then
    if r.method = .get then greet else (Problem.methodNotAllowed r.method).report
  else if path = "/echo".toList then
    if r.method = .get then
      match r.headers.get? "upgrade" with
      | some protocol => echo protocol
      | none => Problem.upgradeMissing.report
    else (Problem.methodNotAllowed r.method).report
  else (Problem.noRoute (String.ofList path)).report

end AccessTrail.Demo
