/-
# Command.Address — addresses to listen on

An address is a host, a colon and a service.  A host with colons stands in
brackets.  A service is a number of sixteen bits or one of the known names.
-/
import Exposure.Number.Decimal
import Exposure.Text.Cut

namespace Exposure.Address

set_option autoImplicit false

/-- The error of an address, or of a part of it. -/
def faultAt (part reason : String) : String := "address " ++ part ++ ": " ++ reason

/-- The host and the service of an address, or what is wrong with it. -/
def divide (address : String) : Except String (String × String) :=
  let s := address.toList
  let fault (reason : String) : Except String (String × String) := .error (faultAt address reason)
  let result (host service inside after : List Char) : Except String (String × String) :=
    if inside.contains '[' then fault "unexpected '[' in address"
    else if after.contains ']' then fault "unexpected ']' in address"
    else .ok (String.ofList host, String.ofList service)
  if !s.contains ':' then fault "missing port in address"
  else
    match s with
    | '[' :: inner =>
      if !inner.contains ']' then fault "missing ']' in address"
      else
        let host := Text.upTo ']' inner
        match inner.drop (host.length + 1) with
        | ':' :: service =>
          if service.contains ':' then fault "too many colons in address"
          else result host service inner service
        | _ => fault "missing port in address"
    | _ =>
      let host := (Text.beforeLast? ':' s).getD []
      if host.contains ':' then fault "too many colons in address"
      else result host (Text.afterLast ':' s) s s

/-- The services with names, in small letters. -/
def services : List String :=
  ["domain", "ftp", "ftps", "gopher", "http", "https", "imap2", "imap3", "imaps", "pop3", "pop3s",
    "smtp", "submissions", "ssh", "telnet"]

/-- A number from which on no further digit is looked at. -/
def numberCutoff : UInt32 := 1073741824

/-- The number of a text of digits, after a number that was read before; none if there is
anything but digits before the cutoff.  Ten times a number is taken in 32 bits. -/
def serviceNumber? : UInt32 → List Char → Option UInt32
  | n, [] => some n
  | n, c :: rest =>
    if !Text.isDigit c then none
    else if numberCutoff ≤ n then some n
    else
      let tens := 10 * n
      let next := tens + (Text.digitValue c).toUInt32
      if next < tens then some numberCutoff else serviceNumber? next rest

/-- What is wrong with a service. -/
def serviceFault? (service : String) : Option String :=
  let (negative, digits) := match service.toList with
    | '-' :: rest => (true, rest)
    | '+' :: rest => (false, rest)
    | rest => (false, rest)
  match serviceNumber? 0 digits with
  | some n =>
    if (negative && n != 0) || 65535 < n then some (faultAt service "invalid port") else none
  | none =>
    if services.contains (String.ofList (service.toList.map Number.lowered)) then none
    else some ("lookup tcp/" ++ service ++ ": unknown port")

/-- Why an address cannot be listened on, as far as its text tells. -/
def fault? (address : String) : Option String :=
  match divide address with
  | .error e => some e
  | .ok (_, service) => serviceFault? service

end Exposure.Address
