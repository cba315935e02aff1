import Hostwatch.Text.Printable
import Hostwatch.Text.Split
import Hostwatch.Url.Punycode

/-!
# Domain names of all scripts

Domain names travel in ASCII. `toAscii?` brings the characters of a name to their common form
(letters in lower case, wide forms to plain ones, the dots of other scripts to dots), leaves out
those that are not seen, and encodes each label that is not ASCII. Names with a character that no
domain may have are refused.

The table of common forms has the letters that come in two cases, letters that are raised or
lowered, and the wide forms of ASCII, as far as each stands for a single character. It does not have
the other characters that only exist for compatibility (ligatures such as U+FB01, mathematical and
encircled letters and digits, variants in other scripts), and marks are not put together with the
letters that they stand on. A name with any of these keeps them as they are, while the full mapping
of the standard replaces them before the label is encoded.
-/

namespace Hostwatch.DomainName

/-- Characters from `first` to `last` in steps, and what the first of them becomes; the others keep
their distance. -/
private structure Run where
  first : Nat
  last : Nat
  step : Nat
  target : Nat

private def hexNumber (s : String) : Nat :=
  s.foldl (fun n c => n * 16 + (if c.isDigit then c.toNat - 48 else c.toNat - 87)) 0

/-- Reads runs written as `first-last/step:target`, separated by blanks. -/
private def runsOfText (text : String) : Array Run :=
  ((text.splitOn " ").filterMap fun word =>
    match word.splitOn ":" with
    | [range, target] =>
      match range.splitOn "/" with
      | [ends, step] =>
        match ends.splitOn "-" with
        | [first, last] =>
          some ⟨hexNumber first, hexNumber last, hexNumber step, hexNumber target⟩
        | _ => none
      | _ => none
    | _ => none).toArray

private def commonForms : Array Run := runsOfText <|
  "aa-aa/1:61 b2-b3/1:32 b5-b5/1:3bc b9-b9/1:31 ba-ba/1:6f c0-d6/1:e0 d8-de/1:f8 100-12e/2:101 " ++
  "134-136/2:135 139-13d/2:13a 141-147/2:142 14a-176/2:14b 178-178/1:ff 179-17d/2:17a " ++
  "17f-17f/1:73 181-181/1:253 182-184/2:183 186-186/1:254 187-187/1:188 189-18a/1:256 " ++
  "18b-18b/1:18c 18e-18e/1:1dd 18f-18f/1:259 190-190/1:25b 191-191/1:192 193-193/1:260 " ++
  "194-194/1:263 196-196/1:269 197-197/1:268 198-198/1:199 19c-19c/1:26f 19d-19d/1:272 " ++
  "19f-19f/1:275 1a0-1a4/2:1a1 1a6-1a6/1:280 1a7-1a7/1:1a8 1a9-1a9/1:283 1ac-1ac/1:1ad " ++
  "1ae-1ae/1:288 1af-1af/1:1b0 1b1-1b2/1:28a 1b3-1b5/2:1b4 1b7-1b7/1:292 1b8-1b8/1:1b9 " ++
  "1bc-1bc/1:1bd 1cd-1db/2:1ce 1de-1ee/2:1df 1f4-1f4/1:1f5 1f6-1f6/1:195 1f7-1f7/1:1bf " ++
  "1f8-21e/2:1f9 220-220/1:19e 222-232/2:223 23a-23a/1:2c65 23b-23b/1:23c 23d-23d/1:19a " ++
  "23e-23e/1:2c66 241-241/1:242 243-243/1:180 244-244/1:289 245-245/1:28c 246-24e/2:247 " ++
  "2b0-2b0/1:68 2b1-2b1/1:266 2b2-2b2/1:6a 2b3-2b3/1:72 2b4-2b4/1:279 2b5-2b5/1:27b " ++
  "2b6-2b6/1:281 2b7-2b7/1:77 2b8-2b8/1:79 2e0-2e0/1:263 2e1-2e1/1:6c 2e2-2e2/1:73 2e3-2e3/1:78 " ++
  "2e4-2e4/1:295 340-341/1:300 343-343/1:313 345-345/1:3b9 370-372/2:371 374-374/1:2b9 " ++
  "376-376/1:377 37e-37e/1:3b 37f-37f/1:3f3 386-386/1:3ac 387-387/1:b7 388-38a/1:3ad " ++
  "38c-38c/1:3cc 38e-38f/1:3cd 391-3a1/1:3b1 3a3-3ab/1:3c3 3cf-3cf/1:3d7 3d0-3d0/1:3b2 " ++
  "3d1-3d1/1:3b8 3d2-3d2/1:3c5 3d3-3d3/1:3cd 3d4-3d4/1:3cb 3d5-3d5/1:3c6 3d6-3d6/1:3c0 " ++
  "3d8-3ee/2:3d9 3f0-3f0/1:3ba 3f1-3f1/1:3c1 3f2-3f2/1:3c3 3f4-3f4/1:3b8 3f5-3f5/1:3b5 " ++
  "3f7-3f7/1:3f8 3f9-3f9/1:3c3 3fa-3fa/1:3fb 3fd-3ff/1:37b 400-40f/1:450 410-42f/1:430 " ++
  "460-480/2:461 48a-4be/2:48b 4c0-4c0/1:4cf 4c1-4cd/2:4c2 4d0-52e/2:4d1 531-556/1:561 " ++
  "f0c-f0c/1:f0b 10a0-10c5/1:2d00 10c7-10c7/1:2d27 10cd-10cd/1:2d2d 10fc-10fc/1:10dc " ++
  "13f8-13fd/1:13f0 1c80-1c80/1:432 1c81-1c81/1:434 1c82-1c82/1:43e 1c83-1c84/1:441 " ++
  "1c85-1c85/1:442 1c86-1c86/1:44a 1c87-1c87/1:463 1c88-1c88/1:a64b 1c90-1cba/1:10d0 " ++
  "1cbd-1cbf/1:10fd 1d2c-1d2c/1:61 1d2d-1d2d/1:e6 1d2e-1d30/2:62 1d31-1d31/1:65 1d32-1d32/1:1dd " ++
  "1d33-1d3a/1:67 1d3c-1d3c/1:6f 1d3d-1d3d/1:223 1d3e-1d3e/1:70 1d3f-1d3f/1:72 1d40-1d41/1:74 " ++
  "1d42-1d42/1:77 1d43-1d43/1:61 1d44-1d45/1:250 1d46-1d46/1:1d02 1d47-1d47/1:62 1d48-1d49/1:64 " ++
  "1d4a-1d4a/1:259 1d4b-1d4c/1:25b 1d4d-1d4d/1:67 1d4f-1d4f/1:6b 1d50-1d50/1:6d 1d51-1d51/1:14b " ++
  "1d52-1d52/1:6f 1d53-1d53/1:254 1d54-1d55/1:1d16 1d56-1d56/1:70 1d57-1d58/1:74 " ++
  "1d59-1d59/1:1d1d 1d5a-1d5a/1:26f 1d5b-1d5b/1:76 1d5c-1d5c/1:1d25 1d5d-1d5f/1:3b2 " ++
  "1d60-1d61/1:3c6 1d62-1d62/1:69 1d63-1d63/1:72 1d64-1d65/1:75 1d66-1d67/1:3b2 1d68-1d68/1:3c1 " ++
  "1d69-1d6a/1:3c6 1d78-1d78/1:43d 1d9b-1d9b/1:252 1d9c-1d9c/1:63 1d9d-1d9d/1:255 " ++
  "1d9e-1d9e/1:f0 1d9f-1d9f/1:25c 1da0-1da0/1:66 1da1-1da1/1:25f 1da2-1da2/1:261 " ++
  "1da3-1da3/1:265 1da4-1da6/1:268 1da7-1da7/1:1d7b 1da8-1da8/1:29d 1da9-1da9/1:26d " ++
  "1daa-1daa/1:1d85 1dab-1dab/1:29f 1dac-1dac/1:271 1dad-1dad/1:270 1dae-1db1/1:272 " ++
  "1db2-1db2/1:278 1db3-1db4/1:282 1db5-1db5/1:1ab 1db6-1db7/1:289 1db8-1db8/1:1d1c " ++
  "1db9-1dba/1:28b 1dbb-1dbb/1:7a 1dbc-1dbe/1:290 1dbf-1dbf/1:3b8 1e00-1e94/2:1e01 " ++
  "1e9b-1e9b/1:1e61 1ea0-1efe/2:1ea1 1f08-1f0f/1:1f00 1f18-1f1d/1:1f10 1f28-1f2f/1:1f20 " ++
  "1f38-1f3f/1:1f30 1f48-1f4d/1:1f40 1f59-1f5f/2:1f51 1f68-1f6f/1:1f60 1f71-1f71/1:3ac " ++
  "1f73-1f73/1:3ad 1f75-1f75/1:3ae 1f77-1f77/1:3af 1f79-1f79/1:3cc 1f7b-1f7b/1:3cd " ++
  "1f7d-1f7d/1:3ce 1fb8-1fb9/1:1fb0 1fba-1fba/1:1f70 1fbb-1fbb/1:3ac 1fbe-1fbe/1:3b9 " ++
  "1fc8-1fc8/1:1f72 1fc9-1fc9/1:3ad 1fca-1fca/1:1f74 1fcb-1fcb/1:3ae 1fd3-1fd3/1:390 " ++
  "1fd8-1fd9/1:1fd0 1fda-1fda/1:1f76 1fdb-1fdb/1:3af 1fe3-1fe3/1:3b0 1fe8-1fe9/1:1fe0 " ++
  "1fea-1fea/1:1f7a 1feb-1feb/1:3cd 1fec-1fec/1:1fe5 1fef-1fef/1:60 1ff8-1ff8/1:1f78 " ++
  "1ff9-1ff9/1:3cc 1ffa-1ffa/1:1f7c 1ffb-1ffb/1:3ce 2c00-2c2f/1:2c30 2c60-2c60/1:2c61 " ++
  "2c62-2c62/1:26b 2c63-2c63/1:1d7d 2c64-2c64/1:27d 2c67-2c6b/2:2c68 2c6d-2c6d/1:251 " ++
  "2c6e-2c6e/1:271 2c6f-2c6f/1:250 2c70-2c70/1:252 2c72-2c72/1:2c73 2c75-2c75/1:2c76 " ++
  "2c7c-2c7c/1:6a 2c7d-2c7d/1:76 2c7e-2c7f/1:23f 2c80-2ce2/2:2c81 2ceb-2ced/2:2cec " ++
  "2cf2-2cf2/1:2cf3 a640-a66c/2:a641 a680-a69a/2:a681 a69c-a69c/1:44a a69d-a69d/1:44c " ++
  "a722-a72e/2:a723 a732-a76e/2:a733 a770-a770/1:a76f a779-a77b/2:a77a a77d-a77d/1:1d79 " ++
  "a77e-a786/2:a77f a78b-a78b/1:a78c a78d-a78d/1:265 a790-a792/2:a791 a796-a7a8/2:a797 " ++
  "a7aa-a7aa/1:266 a7ab-a7ab/1:25c a7ac-a7ac/1:261 a7ad-a7ad/1:26c a7ae-a7ae/1:26a " ++
  "a7b0-a7b0/1:29e a7b1-a7b1/1:287 a7b2-a7b2/1:29d a7b3-a7b3/1:ab53 a7b4-a7c2/2:a7b5 " ++
  "a7c4-a7c4/1:a794 a7c5-a7c5/1:282 a7c6-a7c6/1:1d8e a7c7-a7c9/2:a7c8 a7d0-a7d0/1:a7d1 " ++
  "a7d6-a7d8/2:a7d7 a7f2-a7f2/1:63 a7f3-a7f3/1:66 a7f4-a7f4/1:71 a7f5-a7f5/1:a7f6 " ++
  "a7f8-a7f8/1:127 a7f9-a7f9/1:153 ab5c-ab5c/1:a727 ab5d-ab5d/1:ab37 ab5e-ab5e/1:26b " ++
  "ab5f-ab5f/1:ab52 ab69-ab69/1:28d ab70-abbf/1:13a0 ff01-ff20/1:21 ff21-ff3a/1:61 " ++
  "ff3b-ff5e/1:5b 10400-10427/1:10428 104b0-104d3/1:104d8 10570-1057a/1:10597 " ++
  "1057c-1058a/1:105a3 1058c-10592/1:105b3 10594-10595/1:105bb"

/-- Characters that are left out: hyphens that only show where to break, joins without width and
selectors of a variant. -/
private def isIgnored (c : Char) : Bool :=
  let n := c.toNat
  n == 0xAD || n == 0x34F || n == 0x200B || n == 0x2060 || n == 0x2064 || n == 0xFEFF
    || (0x180B ≤ n && n ≤ 0x180D) || (0xFE00 ≤ n && n ≤ 0xFE0F) || (0xE0100 ≤ n && n ≤ 0xE01EF)

private def isDot (c : Char) : Bool :=
  c == '\u3002' || c == '\uFF0E' || c == '\uFF61'

/-- The common form of a character. -/
def commonForm (c : Char) : Char :=
  let n := c.toNat
  if n < 128 then c.toLower
  else if isDot c then '.'
  else
    match commonForms.find? fun r => r.first ≤ n && n ≤ r.last && (n - r.first) % r.step == 0 with
    | some r => Char.ofNat (r.target + (n - r.first))
    | none => c

/-- Whether a name may hold the character, in its common form. -/
def isAllowed (c : Char) : Bool :=
  let n := c.toNat
  if n < 128 then 0x20 < n && n != 0x7F && !"%#/:<>?@[\\]^|".toList.contains c
  else n != 0xFFFD && !Text.isUnprintable c

/-- Whether an encoded label stands for a label that could not be written in ASCII. -/
private def isGenuine (encoded : List Char) : Bool :=
  match Punycode.decode? encoded with
  | some label =>
    label.any (·.toNat ≥ 128) && label.all (fun c => commonForm c == c && isAllowed c)
      && Punycode.encode label == encoded
  | none => false

/-- The ASCII form of a label in common form. -/
def label? (label : List Char) : Option (List Char) :=
  match label with
  | 'x' :: 'n' :: '-' :: '-' :: encoded => if isGenuine encoded then some label else none
  | _ =>
    if label.all (·.toNat < 128) then some label
    else if (label.head?.map Text.extendsGrapheme).getD false then none
    else some (['x', 'n', '-', '-'] ++ Punycode.encode label)

/-- The ASCII form of a domain name, if it is one. -/
def toAscii? (name : List Char) : Option (List Char) := do
  let common := (name.filter fun c => !isIgnored c).map commonForm
  if !common.all isAllowed then none
  let labels ← (Text.splitBy (· == '.') common).mapM label?
  some (['.'].intercalate labels)

end Hostwatch.DomainName
