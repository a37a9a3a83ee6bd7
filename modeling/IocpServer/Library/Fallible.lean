import Mathlib.Tactic.Common

/-!
# Calls that can fail

Inversion rules for `Except`: what a mapped call, or a call whose fault is
forgotten, says about the call itself.
-/

namespace IocpServer.Library.Fallible

universe u v

variable {Fault Value Other : Type u}

theorem map_eq_ok
    {call : Except Fault Value} {view : Value → Other} {result : Other} :
    call.map view = .ok result ↔
      ∃ value, call = .ok value ∧ view value = result := by
  cases call with
  | error fault => simp [Except.map]
  | ok value => simp [Except.map]

theorem map_eq_error
    {call : Except Fault Value} {view : Value → Other} {fault : Fault} :
    call.map view = .error fault ↔ call = .error fault := by
  cases call with
  | error reported => simp [Except.map]
  | ok value => simp [Except.map]

theorem bind_eq_ok
    {call : Except Fault Value} {rest : Value → Except Fault Other}
    {result : Other} :
    call >>= rest = .ok result ↔
      ∃ value, call = .ok value ∧ rest value = .ok result := by
  cases call with
  | error fault => simp [bind, Except.bind]
  | ok value => simp [bind, Except.bind]

theorem toOption_eq_some
    {call : Except Fault Value} {result : Value} :
    call.toOption = some result ↔ call = .ok result := by
  cases call with
  | error fault => simp [Except.toOption]
  | ok value => simp [Except.toOption]

end IocpServer.Library.Fallible
