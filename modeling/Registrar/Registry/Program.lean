/-!
Programs that act by calls. A program is either done, or it makes a call and goes on with the
reply; who answers the calls is not part of it, so that one program can be run against several
stores, or call by call among others.
-/

namespace Registrar

/-- The calls that a store answers, and the type of the reply to each. -/
structure Interface where
  Call : Type
  Reply : Call → Type

/-- A program over an interface that ends with a result. -/
inductive Program (I : Interface) (α : Type) where
  | done (result : α)
  | call (request : I.Call) (next : I.Reply request → Program I α)

abbrev Interface.Handler (I : Interface) (σ : Type) :=
  (request : I.Call) → σ → I.Reply request × σ

namespace Program

variable {I J : Interface} {α β σ : Type}

def bind : Program I α → (α → Program I β) → Program I β
  | .done result, rest => rest result
  | .call request next, rest => .call request fun reply => (next reply).bind rest

instance : Monad (Program I) where
  pure := .done
  bind := .bind

/-- The program in which every call is carried out by a program over another interface. -/
def expand (each : (request : I.Call) → Program J (I.Reply request)) :
    Program I α → Program J α
  | .done result => .done result
  | .call request next => (each request).bind fun reply => (next reply).expand each

def advance (handler : I.Handler σ) : Program I α → σ → Program I α × σ
  | .done result, state => (.done result, state)
  | .call request next, state =>
    let (reply, state) := handler request state
    (next reply, state)

def run (handler : I.Handler σ) : Program I α → σ → α × σ
  | .done result, state => (result, state)
  | .call request next, state =>
    let (reply, state) := handler request state
    (next reply).run handler state

end Program

end Registrar
