/-!
# Record types

The types of records that can be asked for, by name, with their numbers in messages.
-/

namespace Hostwatch.Dns

/-- The names of the types and their numbers. -/
def recordTypes : List (String × Nat) :=
  [("A", 1), ("NS", 2), ("CNAME", 5), ("SOA", 6), ("NULL", 10), ("PTR", 12), ("HINFO", 13),
    ("MX", 15), ("TXT", 16), ("SIG", 24), ("KEY", 25), ("AAAA", 28), ("SRV", 33), ("NAPTR", 35),
    ("CERT", 37), ("DS", 43), ("SSHFP", 44), ("RRSIG", 46), ("NSEC", 47), ("DNSKEY", 48),
    ("NSEC3", 50), ("NSEC3PARAM", 51), ("TLSA", 52), ("CDS", 59), ("CDNSKEY", 60),
    ("OPENPGPKEY", 61), ("CSYNC", 62), ("SVCB", 64), ("HTTPS", 65), ("TSIG", 250), ("AXFR", 252),
    ("ANY", 255), ("*", 255), ("CAA", 257), ("ANAME", 65305)]

/-- The upper case of a character, as far as it is ASCII. Some letters beyond ASCII have one. -/
def upperCase (c : Char) : List Char :=
  match c with
  | 'ß' => ['S', 'S']
  | 'ı' => ['I']
  | 'ſ' => ['S']
  | 'ﬀ' => ['F', 'F']
  | 'ﬁ' => ['F', 'I']
  | 'ﬂ' => ['F', 'L']
  | 'ﬃ' => ['F', 'F', 'I']
  | 'ﬄ' => ['F', 'F', 'L']
  | 'ﬅ' | 'ﬆ' => ['S', 'T']
  | c => [c.toUpper]

/-- The number of the type with that name, in any case. -/
def recordType? (name : String) : Option Nat :=
  recordTypes.lookup (String.ofList (name.toList.flatMap upperCase))

end Hostwatch.Dns
