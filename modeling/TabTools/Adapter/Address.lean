import TabTools.Url.HostNumber

/-!
# Network addresses

An address to listen on is a host number and a port: `127.0.0.1:4711` or `[::1]:4711`. Names of
hosts are no addresses.
-/

namespace TabTools.Adapter

open HostNumber

inductive Host where
  | short (bytes : List Nat)
  | long (words : List Nat) (zone : Nat)
deriving DecidableEq, Repr

structure Address where
  host : Host
  port : Nat
deriving DecidableEq, Repr

def port16? (cs : List Char) : Option Nat := decimalUpTo? 65535 cs

/-- An address with a long host number, behind its opening bracket. A zone may follow the number. -/
def bracketed? (cs : List Char) : Option Address := do
  let inside := cs.takeWhile (· != ']')
  let host := inside.takeWhile (· != '%')
  let zone ← match inside.dropWhile (· != '%') with
    | [] => some 0
    | _ :: digits => decimalUpTo? 0xFFFFFFFF digits
  match cs.dropWhile (· != ']') with
  | ']' :: ':' :: port => return ⟨.long (← longHost? host) zone, ← port16? port⟩
  | _ => none

/-- Reads an address. -/
def Address.parse? (text : String) : Option Address :=
  match text.toList with
  | '[' :: rest => bracketed? rest
  | cs =>
    match cs.dropWhile (· != ':') with
    | ':' :: port => do
      return ⟨.short (← shortHost? (cs.takeWhile (· != ':'))), ← port16? port⟩
    | _ => none

end TabTools.Adapter
