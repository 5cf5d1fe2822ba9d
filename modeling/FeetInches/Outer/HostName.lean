import FeetInches.Text.Quoted
/-!
Host names as a client encodes them. Like all of the outer layer it stands in for foreign code;
nothing is proved about it.
-/

namespace FeetInches.Text

def parts {α : Type} (separates : α → Bool) : List α → List (List α)
  | [] => [[]]
  | c :: rest =>
    if separates c then [] :: parts separates rest
    else match parts separates rest with
      | first :: others => (c :: first) :: others
      | [] => [[c]]

def after {α : Type} [DecidableEq α] (c : α) (t : List α) : List α := (t.dropWhile (· ≠ c)).drop 1

end FeetInches.Text

namespace FeetInches.Text.Punycode

def digitChar (d : Nat) : Char := Char.ofNat (if d < 26 then 97 + d else 22 + d)

def threshold (bias place : Nat) : Nat := min 26 (max 1 (36 * (place + 1) - bias))

theorem threshold_pos (bias place : Nat) : 0 < threshold bias place := by
  unfold threshold
  omega

def digits (bias place n : Nat) : List Char :=
  let t := threshold bias place
  if n < t then [digitChar n]
  else digitChar (t + (n - t) % (36 - t)) :: digits bias (place + 1) ((n - t) / (36 - t))
termination_by n
decreasing_by
  have positive := threshold_pos bias place
  calc (n - threshold bias place) / (36 - threshold bias place)
      ≤ n - threshold bias place := Nat.div_le_self _ _
    _ < n := by omega

def biasOfScaled (places scaled : Nat) : Nat :=
  if 455 < scaled then biasOfScaled (places + 1) (scaled / 35)
  else 36 * places + 36 * scaled / (scaled + 38)
termination_by scaled
decreasing_by exact Nat.div_lt_self (by omega) (by omega)

def biasAfter (first : Bool) (distance count : Nat) : Nat :=
  let scaled := if first then distance / 700 else distance / 2
  biasOfScaled 0 (scaled + scaled / count)

structure State where
  distance : Nat := 0
  bias : Nat := 72
  written : Nat
  first : Bool := true
  output : List Char := []

def State.pass (code : Nat) (s : State) (c : Nat) : State :=
  if c < code then { s with distance := s.distance + 1 }
  else if c = code then
    { distance := 0
      bias := biasAfter s.first s.distance (s.written + 1)
      written := s.written + 1
      first := false
      output := s.output ++ digits s.bias 0 s.distance }
  else s

def State.writeCodes (text : List Nat) (last : Nat) (s : State) : List Nat → State
  | [] => s
  | code :: codes =>
    let s := { s with distance := s.distance + (code - last - 1) * (s.written + 1) }
    let s := text.foldl (State.pass code) s
    writeCodes text code { s with distance := s.distance + 1 } codes

def encode (text : List Nat) : List Char :=
  let (plain, others) := text.partition (· < 128)
  let codes := (others.mergeSort).eraseDups
  let s := State.writeCodes text 127 { written := plain.length } codes
  plain.map Char.ofNat ++ (if plain = [] then [] else ['-']) ++ s.output

end FeetInches.Text.Punycode

namespace FeetInches.Api

inductive HostNameFault where
  | labelLength
  | lastLabelLength
  | refused (p : CodePoint)
  | mixedDirections
  | directionAtEnds
  | encodedPrefix
  deriving DecidableEq, Repr

def HostNameFault.message : HostNameFault → String
  | .labelLength => "label empty or too long"
  | .lastLabelLength => "label too long"
  | .refused p => "Invalid character " ++ Text.quoted [p]
  | .mixedDirections => "Violation of BIDI requirement 2"
  | .directionAtEnds => "Violation of BIDI requirement 3"
  | .encodedPrefix => "Label starts with ACE prefix"

end FeetInches.Api

namespace FeetInches.Api.HostLetter

/-- Whether an odd number of the codes in a table have been reached, so that the property that
changes at each of them holds. -/
def holds (edges : List Nat) (p : CodePoint) : Bool :=
  (edges.takeWhile (· ≤ p.toNat)).length % 2 = 1

def droppedEdges : List Nat :=
  [
   0xad, 0xae, 0x34f, 0x350, 0x1806, 0x1807, 0x180b, 0x180e, 0x200b, 0x200e, 0x2060, 0x2061, 0xfe00,
   0xfe10, 0xfeff, 0xff00
  ]

def refusedEdges : List Nat :=
  [
   0x80, 0xa0, 0x6dd, 0x6de, 0x70f, 0x710, 0x1680, 0x1681, 0x180e, 0x180f, 0x200e, 0x2010, 0x2028,
   0x202f, 0x2061, 0x2064, 0x206a, 0x2070, 0x2ff0, 0x2ffc, 0xd800, 0xf900, 0xfdd0, 0xfdf0, 0xfff9,
   0x10000, 0x1d173, 0x1d17b, 0x1fffe, 0x20000, 0x2fffe, 0x30000, 0x3fffe, 0x40000, 0x4fffe,
   0x50000, 0x5fffe, 0x60000, 0x6fffe, 0x70000, 0x7fffe, 0x80000, 0x8fffe, 0x90000, 0x9fffe,
   0xa0000, 0xafffe, 0xb0000, 0xbfffe, 0xc0000, 0xcfffe, 0xd0000, 0xdfffe, 0xe0000, 0xe0001,
   0xe0002, 0xe0020, 0xe0080, 0xefffe, 0x110000
  ]

def rightEdges : List Nat :=
  [
   0x5be, 0x5bf, 0x5c0, 0x5c1, 0x5c3, 0x5c4, 0x5d0, 0x5eb, 0x5f0, 0x5f5, 0x61b, 0x61c, 0x61f, 0x620,
   0x621, 0x63b, 0x640, 0x64b, 0x66d, 0x670, 0x671, 0x6d6, 0x6dd, 0x6de, 0x6e5, 0x6e7, 0x6fa, 0x6ff,
   0x700, 0x70e, 0x710, 0x711, 0x712, 0x72d, 0x780, 0x7a6, 0x7b1, 0x7b2, 0x200f, 0x2010, 0x2135,
   0x2139, 0xfb1d, 0xfb1e, 0xfb1f, 0xfb29, 0xfb2a, 0xfb37, 0xfb38, 0xfb3d, 0xfb3e, 0xfb3f, 0xfb40,
   0xfb42, 0xfb43, 0xfb45, 0xfb46, 0xfbb2, 0xfbd3, 0xfc5e, 0xfc64, 0xfd3e, 0xfd50, 0xfd90, 0xfd92,
   0xfdc8, 0xfdf0, 0xfdfd, 0xfe71, 0xfe72, 0xfe73, 0xfe74, 0xfe77, 0xfe78, 0xfe79, 0xfe7a, 0xfe7b,
   0xfe7c, 0xfe7d, 0xfe7e, 0xfe7f, 0xfefd
  ]

def markedEdges : List Nat :=
  [
   0xfb1d, 0xfb1e, 0xfb1f, 0xfb20, 0xfb2a, 0xfb37, 0xfb38, 0xfb3d, 0xfb3e, 0xfb3f, 0xfb40, 0xfb42,
   0xfb43, 0xfb45, 0xfb46, 0xfb4f, 0xfc5b, 0xfc5e, 0xfc90, 0xfc91, 0xfcd9, 0xfcda, 0xfcf2, 0xfcf5,
   0xfd3c, 0xfd3e, 0xfe71, 0xfe72, 0xfe77, 0xfe78, 0xfe79, 0xfe7a, 0xfe7b, 0xfe7c, 0xfe7d, 0xfe7e,
   0xfe7f, 0xfe80
  ]

def leftEdges : List Nat :=
  [
   0x41, 0x5b, 0x61, 0x7b, 0xaa, 0xab, 0xb5, 0xb6, 0xba, 0xbb, 0xc0, 0xd7, 0xd8, 0xf7, 0xf8, 0x221,
   0x222, 0x234, 0x23d, 0x23e, 0x243, 0x246, 0x250, 0x2ae, 0x2b0, 0x2b9, 0x2bb, 0x2c2, 0x2d0, 0x2d2,
   0x2e0, 0x2e5, 0x2ee, 0x2ef, 0x345, 0x346, 0x37a, 0x37b, 0x37f, 0x380, 0x386, 0x387, 0x388, 0x38b,
   0x38c, 0x38d, 0x38e, 0x3a2, 0x3a3, 0x3f6, 0x3f9, 0x3fa, 0x400, 0x483, 0x48a, 0x4c0, 0x4c1, 0x4cf,
   0x4d0, 0x4f6, 0x4f8, 0x4fa, 0x500, 0x510, 0x531, 0x557, 0x559, 0x560, 0x561, 0x588, 0x589, 0x58a,
   0x903, 0x904, 0x905, 0x93a, 0x93d, 0x941, 0x949, 0x94d, 0x950, 0x951, 0x958, 0x962, 0x964, 0x971,
   0x982, 0x984, 0x985, 0x98d, 0x98f, 0x991, 0x993, 0x9a9, 0x9aa, 0x9b1, 0x9b2, 0x9b3, 0x9b6, 0x9ba,
   0x9be, 0x9c1, 0x9c7, 0x9c9, 0x9cb, 0x9cd, 0x9d7, 0x9d8, 0x9dc, 0x9de, 0x9df, 0x9e2, 0x9e6, 0x9f2,
   0x9f4, 0x9fb, 0xa05, 0xa0b, 0xa0f, 0xa11, 0xa13, 0xa29, 0xa2a, 0xa31, 0xa32, 0xa34, 0xa35, 0xa37,
   0xa38, 0xa3a, 0xa3e, 0xa41, 0xa59, 0xa5d, 0xa5e, 0xa5f, 0xa66, 0xa70, 0xa72, 0xa75, 0xa83, 0xa84,
   0xa85, 0xa8c, 0xa8d, 0xa8e, 0xa8f, 0xa92, 0xa93, 0xaa9, 0xaaa, 0xab1, 0xab2, 0xab4, 0xab5, 0xaba,
   0xabd, 0xac1, 0xac9, 0xaca, 0xacb, 0xacd, 0xad0, 0xad1, 0xae0, 0xae1, 0xae6, 0xaf0, 0xb02, 0xb04,
   0xb05, 0xb0d, 0xb0f, 0xb11, 0xb13, 0xb29, 0xb2a, 0xb31, 0xb32, 0xb34, 0xb36, 0xb3a, 0xb3d, 0xb3f,
   0xb40, 0xb41, 0xb47, 0xb49, 0xb4b, 0xb4d, 0xb57, 0xb58, 0xb5c, 0xb5e, 0xb5f, 0xb62, 0xb66, 0xb71,
   0xb83, 0xb84, 0xb85, 0xb8b, 0xb8e, 0xb91, 0xb92, 0xb96, 0xb99, 0xb9b, 0xb9c, 0xb9d, 0xb9e, 0xba0,
   0xba3, 0xba5, 0xba8, 0xbab, 0xbae, 0xbb6, 0xbb7, 0xbba, 0xbbe, 0xbc0, 0xbc1, 0xbc3, 0xbc6, 0xbc9,
   0xbca, 0xbcd, 0xbd7, 0xbd8, 0xbe7, 0xbf3, 0xc01, 0xc04, 0xc05, 0xc0d, 0xc0e, 0xc11, 0xc12, 0xc29,
   0xc2a, 0xc34, 0xc35, 0xc3a, 0xc41, 0xc45, 0xc60, 0xc62, 0xc66, 0xc70, 0xc82, 0xc84, 0xc85, 0xc8d,
   0xc8e, 0xc91, 0xc92, 0xca9, 0xcaa, 0xcb4, 0xcb5, 0xcba, 0xcbe, 0xcbf, 0xcc0, 0xcc5, 0xcc7, 0xcc9,
   0xcca, 0xccc, 0xcd5, 0xcd7, 0xcde, 0xcdf, 0xce0, 0xce2, 0xce6, 0xcf0, 0xd02, 0xd04, 0xd05, 0xd0d,
   0xd0e, 0xd11, 0xd12, 0xd29, 0xd2a, 0xd3a, 0xd3e, 0xd41, 0xd46, 0xd49, 0xd4a, 0xd4d, 0xd57, 0xd58,
   0xd60, 0xd62, 0xd66, 0xd70, 0xd82, 0xd84, 0xd85, 0xd97, 0xd9a, 0xdb2, 0xdb3, 0xdbc, 0xdbd, 0xdbe,
   0xdc0, 0xdc7, 0xdcf, 0xdd2, 0xdd8, 0xde0, 0xdf2, 0xdf5, 0xe01, 0xe31, 0xe32, 0xe34, 0xe40, 0xe47,
   0xe4f, 0xe5c, 0xe81, 0xe83, 0xe84, 0xe85, 0xe87, 0xe89, 0xe8a, 0xe8b, 0xe8d, 0xe8e, 0xe94, 0xe98,
   0xe99, 0xea0, 0xea1, 0xea4, 0xea5, 0xea6, 0xea7, 0xea8, 0xeaa, 0xeac, 0xead, 0xeb1, 0xeb2, 0xeb4,
   0xebd, 0xebe, 0xec0, 0xec5, 0xec6, 0xec7, 0xed0, 0xeda, 0xedc, 0xede, 0xf00, 0xf18, 0xf1a, 0xf35,
   0xf36, 0xf37, 0xf38, 0xf39, 0xf3e, 0xf48, 0xf49, 0xf6b, 0xf7f, 0xf80, 0xf85, 0xf86, 0xf88, 0xf8c,
   0xfbe, 0xfc6, 0xfc7, 0xfcd, 0xfcf, 0xfd0, 0x1000, 0x1022, 0x1023, 0x1028, 0x1029, 0x102b, 0x102c,
   0x102d, 0x1031, 0x1032, 0x1038, 0x1039, 0x1040, 0x1058, 0x10d0, 0x10f9, 0x10fb, 0x10fc, 0x1100,
   0x115a, 0x115f, 0x11a3, 0x11a8, 0x11fa, 0x1200, 0x1207, 0x1208, 0x1247, 0x1248, 0x1249, 0x124a,
   0x124e, 0x1250, 0x1257, 0x1258, 0x1259, 0x125a, 0x125e, 0x1260, 0x1287, 0x1288, 0x1289, 0x128a,
   0x128e, 0x1290, 0x12af, 0x12b0, 0x12b1, 0x12b2, 0x12b6, 0x12b8, 0x12bf, 0x12c0, 0x12c1, 0x12c2,
   0x12c6, 0x12c8, 0x12cf, 0x12d0, 0x12d7, 0x12d8, 0x12ef, 0x12f0, 0x130f, 0x1310, 0x1311, 0x1312,
   0x1316, 0x1318, 0x131f, 0x1320, 0x1347, 0x1348, 0x135b, 0x1361, 0x137d, 0x1401, 0x1677, 0x1681,
   0x169b, 0x16a0, 0x16f1, 0x1700, 0x170d, 0x170e, 0x1712, 0x1720, 0x1732, 0x1735, 0x1737, 0x1740,
   0x1752, 0x1760, 0x176d, 0x176e, 0x1771, 0x1780, 0x17b7, 0x17be, 0x17c6, 0x17c7, 0x17c9, 0x17d4,
   0x17db, 0x17dc, 0x17dd, 0x17e0, 0x17ea, 0x1810, 0x181a, 0x1820, 0x1878, 0x1880, 0x18a9, 0x1c90,
   0x1cb9, 0x1e00, 0x1e9c, 0x1e9e, 0x1e9f, 0x1ea0, 0x1efa, 0x1f00, 0x1f16, 0x1f18, 0x1f1e, 0x1f20,
   0x1f46, 0x1f48, 0x1f4e, 0x1f50, 0x1f58, 0x1f59, 0x1f5a, 0x1f5b, 0x1f5c, 0x1f5d, 0x1f5e, 0x1f5f,
   0x1f7e, 0x1f80, 0x1fb5, 0x1fb6, 0x1fbd, 0x1fbe, 0x1fbf, 0x1fc2, 0x1fc5, 0x1fc6, 0x1fcd, 0x1fd0,
   0x1fd4, 0x1fd6, 0x1fdc, 0x1fe0, 0x1fed, 0x1ff2, 0x1ff5, 0x1ff6, 0x1ffd, 0x2071, 0x2072, 0x207f,
   0x2080, 0x20a8, 0x20a9, 0x2100, 0x2104, 0x2105, 0x2108, 0x2109, 0x2114, 0x2115, 0x2117, 0x2119,
   0x211e, 0x2120, 0x2123, 0x2124, 0x2125, 0x2126, 0x2127, 0x2128, 0x2129, 0x212a, 0x212e, 0x212f,
   0x2132, 0x2133, 0x2135, 0x2139, 0x213a, 0x213d, 0x2140, 0x2145, 0x214a, 0x2160, 0x2183, 0x2336,
   0x237b, 0x2395, 0x2396, 0x249c, 0x24ea, 0x2c62, 0x2c63, 0x2c64, 0x2c65, 0x2c6d, 0x2c71, 0x2e9f,
   0x2ea0, 0x2ef3, 0x2ef4, 0x2f00, 0x2fd6, 0x3005, 0x3008, 0x3021, 0x302a, 0x3031, 0x3036, 0x3038,
   0x303d, 0x3041, 0x3097, 0x309d, 0x30a0, 0x30a1, 0x30fb, 0x30fc, 0x3100, 0x3105, 0x312d, 0x3131,
   0x318f, 0x3190, 0x31b8, 0x31f0, 0x321d, 0x3220, 0x3244, 0x3260, 0x327c, 0x327f, 0x32b1, 0x32c0,
   0x32cc, 0x32d0, 0x32ff, 0x3300, 0x3377, 0x337b, 0x33de, 0x33e0, 0x33ff, 0x3400, 0x4db6, 0x4e00,
   0x9fa6, 0xa000, 0xa48d, 0xa78d, 0xa78e, 0xa7aa, 0xa7af, 0xa7b0, 0xa7b3, 0xa7c5, 0xa7c6, 0xac00,
   0xd7a4, 0xf900, 0xfa2e, 0xfa30, 0xfa6b, 0xfb00, 0xfb07, 0xfb13, 0xfb18, 0xff21, 0xff3b, 0xff41,
   0xff5b, 0xff66, 0xff9e, 0xffa0, 0xffbf, 0xffc2, 0xffc8, 0xffca, 0xffd0, 0xffd2, 0xffd8, 0xffda,
   0xffdd, 0x10300, 0x1031f, 0x10320, 0x10324, 0x10330, 0x1034b, 0x10400, 0x10426, 0x10428, 0x1044e,
   0x1d000, 0x1d0f6, 0x1d100, 0x1d127, 0x1d12a, 0x1d167, 0x1d16a, 0x1d173, 0x1d183, 0x1d185,
   0x1d18c, 0x1d1aa, 0x1d1ae, 0x1d1de, 0x1d400, 0x1d455, 0x1d456, 0x1d49d, 0x1d49e, 0x1d4a0,
   0x1d4a2, 0x1d4a3, 0x1d4a5, 0x1d4a7, 0x1d4a9, 0x1d4ad, 0x1d4ae, 0x1d4ba, 0x1d4bb, 0x1d4bc,
   0x1d4bd, 0x1d4c1, 0x1d4c2, 0x1d4c4, 0x1d4c5, 0x1d506, 0x1d507, 0x1d50b, 0x1d50d, 0x1d515,
   0x1d516, 0x1d51d, 0x1d51e, 0x1d53a, 0x1d53b, 0x1d53f, 0x1d540, 0x1d545, 0x1d546, 0x1d547,
   0x1d54a, 0x1d551, 0x1d552, 0x1d6a4, 0x1d6a8, 0x1d6c1, 0x1d6c2, 0x1d6db, 0x1d6dc, 0x1d6fb,
   0x1d6fc, 0x1d715, 0x1d716, 0x1d735, 0x1d736, 0x1d74f, 0x1d750, 0x1d76f, 0x1d770, 0x1d789,
   0x1d78a, 0x1d7a9, 0x1d7aa, 0x1d7c3, 0x1d7c4, 0x1d7ca, 0x20000, 0x2a6d7, 0x2f800, 0x2fa1e
  ]

def isDropped (p : CodePoint) : Bool := holds droppedEdges p

def isRefused (p : CodePoint) : Bool := holds refusedEdges p

def isFromRight (p : CodePoint) : Bool := holds rightEdges p

def endsFromRight (p : CodePoint) : Bool := isFromRight p && !holds markedEdges p

def isFromLeft (p : CodePoint) : Bool := holds leftEdges p

end FeetInches.Api.HostLetter

namespace FeetInches.Api.HostFold

def blanks : List Nat :=
  [0xa0, 0x2000, 0x2001, 0x2002, 0x2003, 0x2004, 0x2005, 0x2006, 0x2007, 0x2008, 0x2009, 0x200a,
    0x202f, 0x205f, 0x3000]

/-- The code of a character, and the texts that it and those after it stand for, with blanks between
the texts. -/
def runs : List (Nat × String) :=
  [
    (0xaa, "a"), (0xb2, "2 3"), (0xb9, "1 o"), (0xdf, "ss"), (0x132, "ij ij"), (0x17f, "s"),
    (0x1c7, "lj lj lj nj nj nj"), (0x1f1, "dz dz dz"), (0x2b0, "h"), (0x2b2, "j r"), (0x2b7, "w y"),
    (0x2e1, "l s x"), (0x37e, ";"), (0x1e9e, "ss"), (0x1fef, "`"), (0x2024, ". .. ..."),
    (0x203c, "!!"), (0x2047, "?? ?! !?"), (0x2070, "0 i"), (0x2074, "4 5 6 7 8 9 +"),
    (0x207c, "= ( ) n 0 1 2 3 4 5 6 7 8 9 +"), (0x208c, "= ( )"), (0x20a8, "rs"),
    (0x2100, "a/c a/s c"), (0x2105, "c/o c/u"), (0x210a, "g h h h h"), (0x2110, "i i l l"),
    (0x2115, "n no"), (0x2119, "p q r r r"), (0x2120, "sm tel tm"), (0x2124, "z"), (0x2128, "z"),
    (0x212a, "k"), (0x212c, "b c"), (0x212f, "e e f"), (0x2133, "m o"), (0x2139, "i"),
    (0x2145, "d d e i j"),
    (0x2160, "i ii iii iv v vi vii viii ix x xi xii l c d m i ii iii iv v vi vii viii ix x"),
    (0x217a, "xi xii l c d m"),
    (0x2460, "1 2 3 4 5 6 7 8 9 10 11 12 13 14 15 16 17 18 19 20 (1) (2) (3) (4) (5) (6)"),
    (0x247a, "(7) (8) (9) (10) (11) (12) (13) (14) (15) (16) (17) (18) (19) (20) 1. 2. 3."),
    (0x248b, "4. 5. 6. 7. 8. 9. 10. 11. 12. 13. 14. 15. 16. 17. 18. 19. 20. (a) (b) (c) (d)"),
    (0x24a0, "(e) (f) (g) (h) (i) (j) (k) (l) (m) (n) (o) (p) (q) (r) (s) (t) (u) (v) (w)"),
    (0x24b3, "(x) (y) (z) a b c d e f g h i j k l m n o p q r s t u v w x y z a b c d e f g"),
    (0x24d7, "h i j k l m n o p q r s t u v w x y z 0"), (0x2a74, "::= == ==="),
    (0x3251, "21 22 23 24 25 26 27 28 29 30 31 32 33 34 35"),
    (0x32b1, "36 37 38 39 40 41 42 43 44 45 46 47 48 49 50"), (0x3371, "hpa da au bar ov pc"),
    (0x3380, "pa na"), (0x3383, "ma ka kb mb gb cal kcal pf nf"),
    (0x338e, "mg kg hz khz mhz ghz thz"), (0x3396, "ml dl kl fm nm"),
    (0x339c, "mm cm km mm2 cm2 m2 km2 mm3 cm3 m3 km3"), (0x33a9, "pa kpa mpa gpa rad"),
    (0x33b0, "ps ns"), (0x33b3, "ms pv nv"), (0x33b7, "mv kv mv pw nw"), (0x33bd, "mw kw mw"),
    (0x33c2, "a.m. bq cc cd"),
    (0x33c7, "co. db gy ha hp in kk km kt lm ln log lx mb mil mol ph p.m. ppm pr sr sv wb"),
    (0xfb00, "ff fi fl ffi ffl st st"), (0xfb29, "+"), (0xfe30, ".."),
    (0xfe33, "_ _ ( ) \x7b \x7d"), (0xfe4d, "_ _ _ ,"), (0xfe52, "."), (0xfe54, "; : ? !"),
    (0xfe59, "( ) \x7b \x7d"), (0xfe5f, "# & * + - < > ="), (0xfe68, "\\ $ % @"),
    (0xff01, "! \" # $ % & ' ( ) * + , - . / 0 1 2 3 4 5 6 7 8 9 : ; < = > ? @ a b c d e f"),
    (0xff27, "g h i j k l m n o p q r s t u v w x y z [ \\ ] ^ _ ` a b c d e f g h i j k l"),
    (0xff4d, "m n o p q r s t u v w x y z \x7b | \x7d ~"),
    (0x1d400, "a b c d e f g h i j k l m n o p q r s t u v w x y z a b c d e f g h i j k l m"),
    (0x1d427, "n o p q r s t u v w x y z a b c d e f g h i j k l m n o p q r s t u v w x y z"),
    (0x1d44e, "a b c d e f g"),
    (0x1d456, "i j k l m n o p q r s t u v w x y z a b c d e f g h i j k l m n o p q r s t u"),
    (0x1d47d, "v w x y z a b c d e f g h i j k l m n o p q r s t u v w x y z a"), (0x1d49e, "c d"),
    (0x1d4a2, "g"), (0x1d4a5, "j k"), (0x1d4a9, "n o p q"), (0x1d4ae, "s t u v w x y z a b c d"),
    (0x1d4bb, "f"), (0x1d4bd, "h i j k"), (0x1d4c2, "m n"),
    (0x1d4c5, "p q r s t u v w x y z a b c d e f g h i j k l m n o p q r s t u v w x y z a b"),
    (0x1d4ec, "c d e f g h i j k l m n o p q r s t u v w x y z a b"), (0x1d507, "d e f g"),
    (0x1d50d, "j k l m n o p q"), (0x1d516, "s t u v w x y"),
    (0x1d51e, "a b c d e f g h i j k l m n o p q r s t u v w x y z a b"), (0x1d53b, "d e f g"),
    (0x1d540, "i j k l m"), (0x1d546, "o"), (0x1d54a, "s t u v w x y"),
    (0x1d552, "a b c d e f g h i j k l m n o p q r s t u v w x y z a b c d e f g h i j k l m"),
    (0x1d579, "n o p q r s t u v w x y z a b c d e f g h i j k l m n o p q r s t u v w x y z"),
    (0x1d5a0, "a b c d e f g h i j k l m n o p q r s t u v w x y z a b c d e f g h i j k l m"),
    (0x1d5c7, "n o p q r s t u v w x y z a b c d e f g h i j k l m n o p q r s t u v w x y z"),
    (0x1d5ee, "a b c d e f g h i j k l m n o p q r s t u v w x y z a b c d e f g h i j k l m"),
    (0x1d615, "n o p q r s t u v w x y z a b c d e f g h i j k l m n o p q r s t u v w x y z"),
    (0x1d63c, "a b c d e f g h i j k l m n o p q r s t u v w x y z a b c d e f g h i j k l m"),
    (0x1d663, "n o p q r s t u v w x y z a b c d e f g h i j k l m n o p q r s t u v w x y z"),
    (0x1d68a, "a b c d e f g h i j k l m n o p q r s t u v w x y z"),
    (0x1d7ce, "0 1 2 3 4 5 6 7 8 9 0 1 2 3 4 5 6 7 8 9 0 1 2 3 4 5 6 7 8 9 0 1 2 3 4 5 6 7 8"),
    (0x1d7f5, "9 0 1 2 3 4 5 6 7 8 9")
  ]

def textIn? (code : Nat) (run : Nat × String) : Option (List Char) :=
  if code < run.1 then none else (Text.parts (· = ' ') run.2.toList)[code - run.1]?

def fold (p : CodePoint) : Text :=
  if blanks.contains p.toNat then [.char ' ']
  else match runs.findSome? (textIn? p.toNat) with
    | some text => Text.ofChars text
    | none => [p]

end FeetInches.Api.HostFold

namespace FeetInches.Api.HostName

open HostLetter

def isAscii (t : Text) : Bool := t.all (·.toNat < 128)

def isDot (p : CodePoint) : Bool := [0x2e, 0x3002, 0xff0e, 0xff61].contains p.toNat

def checkLength (label : List Char) : Except HostNameFault (List Char) :=
  if 0 < label.length ∧ label.length < 64 then .ok label else .error .labelLength

def checkDirections (label : Text) : Except HostNameFault Unit :=
  if label.any isFromRight then
    if label.any isFromLeft then .error .mixedDirections
    else if label.head?.any isFromRight && label.getLast?.any endsFromRight then .ok ()
    else .error .directionAtEnds
  else .ok ()

def encodedPrefix : List Char := "xn--".toList

def encodeFolded (label : Text) : Except HostNameFault (List Char) :=
  if isAscii label then checkLength label.chars
  else if encodedPrefix.isPrefixOf label.chars then .error .encodedPrefix
  else checkLength (encodedPrefix ++ Text.Punycode.encode (label.map CodePoint.toNat))

def encodeLabel (label : Text) : Except HostNameFault (List Char) :=
  if isAscii label then checkLength label.chars
  else
    let label := label.filter (!isDropped ·)
    match label.find? isRefused with
    | some p => .error (.refused p)
    | none => do
      checkDirections label
      encodeFolded (label.flatMap HostFold.fold)

def encodeLabels : List Text → Except HostNameFault (List Char)
  | [] | [[]] => .ok []
  | [label] => encodeLabel label
  | label :: rest => do
    let first ← encodeLabel label
    let others ← encodeLabels rest
    return first ++ '.' :: others

/-- A name in ASCII characters. One that has no others stays as it is, and its last label is only
looked at for being too long. -/
def encode (name : Text) : Except HostNameFault (List Char) :=
  let labels := Text.parts isDot name
  if isAscii name then do
    let _ ← labels.dropLast.mapM encodeLabel
    if labels.getLast?.any (64 ≤ ·.length) then .error .lastLabelLength else return name.chars
  else encodeLabels labels

end FeetInches.Api.HostName
