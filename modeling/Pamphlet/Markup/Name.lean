import Pamphlet.Text.CharSet

/-!
# Characters of markup

Which characters may stand in a document and in a name, by the first edition of the recommendation
in the state that its fourth edition describes: names consist of letters, digits, combining
characters and extenders of the Basic Multilingual Plane.

A byte sequence that encodes no character is read as one of two code points that no document may
hold: `malformed` for a sequence that cannot be one, and `truncated` for a sequence that the end of
the document cuts short.
-/

namespace Pamphlet.Markup

open Pamphlet.Text

/-- Stands for bytes that encode no character. -/
def malformed : Char := '\uFFFF'

/-- Stands for the beginning of a character at the end of a document. -/
def truncated : Char := '\uFFFE'

/-- Letters and ideographs, and the underscore. -/
def nameStarts : CharSet where
  bounds := [
    0x41, 0x5B, 0x5F, 0x60, 0x61, 0x7B, 0xC0, 0xD7, 0xD8, 0xF7, 0xF8, 0x132, 0x134, 0x13F, 0x141,
    0x149, 0x14A, 0x17F, 0x180, 0x1C4, 0x1CD, 0x1F1, 0x1F4, 0x1F6, 0x1FA, 0x218, 0x250, 0x2A9,
    0x2BB, 0x2C2, 0x386, 0x387, 0x388, 0x38B, 0x38C, 0x38D, 0x38E, 0x3A2, 0x3A3, 0x3CF, 0x3D0,
    0x3D7, 0x3DA, 0x3DB, 0x3DC, 0x3DD, 0x3DE, 0x3DF, 0x3E0, 0x3E1, 0x3E2, 0x3F4, 0x401, 0x40D,
    0x40E, 0x450, 0x451, 0x45D, 0x45E, 0x482, 0x490, 0x4C5, 0x4C7, 0x4C9, 0x4CB, 0x4CD, 0x4D0,
    0x4EC, 0x4EE, 0x4F6, 0x4F8, 0x4FA, 0x531, 0x557, 0x559, 0x55A, 0x561, 0x587, 0x5D0, 0x5EB,
    0x5F0, 0x5F3, 0x621, 0x63B, 0x641, 0x64B, 0x671, 0x6B8, 0x6BA, 0x6BF, 0x6C0, 0x6CF, 0x6D0,
    0x6D4, 0x6D5, 0x6D6, 0x6E5, 0x6E7, 0x905, 0x93A, 0x93D, 0x93E, 0x958, 0x962, 0x985, 0x98D,
    0x98F, 0x991, 0x993, 0x9A9, 0x9AA, 0x9B1, 0x9B2, 0x9B3, 0x9B6, 0x9BA, 0x9DC, 0x9DE, 0x9DF,
    0x9E2, 0x9F0, 0x9F2, 0xA05, 0xA0B, 0xA0F, 0xA11, 0xA13, 0xA29, 0xA2A, 0xA31, 0xA32, 0xA34,
    0xA35, 0xA37, 0xA38, 0xA3A, 0xA59, 0xA5D, 0xA5E, 0xA5F, 0xA72, 0xA75, 0xA85, 0xA8C, 0xA8D,
    0xA8E, 0xA8F, 0xA92, 0xA93, 0xAA9, 0xAAA, 0xAB1, 0xAB2, 0xAB4, 0xAB5, 0xABA, 0xABD, 0xABE,
    0xAE0, 0xAE1, 0xB05, 0xB0D, 0xB0F, 0xB11, 0xB13, 0xB29, 0xB2A, 0xB31, 0xB32, 0xB34, 0xB36,
    0xB3A, 0xB3D, 0xB3E, 0xB5C, 0xB5E, 0xB5F, 0xB62, 0xB85, 0xB8B, 0xB8E, 0xB91, 0xB92, 0xB96,
    0xB99, 0xB9B, 0xB9C, 0xB9D, 0xB9E, 0xBA0, 0xBA3, 0xBA5, 0xBA8, 0xBAB, 0xBAE, 0xBB6, 0xBB7,
    0xBBA, 0xC05, 0xC0D, 0xC0E, 0xC11, 0xC12, 0xC29, 0xC2A, 0xC34, 0xC35, 0xC3A, 0xC60, 0xC62,
    0xC85, 0xC8D, 0xC8E, 0xC91, 0xC92, 0xCA9, 0xCAA, 0xCB4, 0xCB5, 0xCBA, 0xCDE, 0xCDF, 0xCE0,
    0xCE2, 0xD05, 0xD0D, 0xD0E, 0xD11, 0xD12, 0xD29, 0xD2A, 0xD3A, 0xD60, 0xD62, 0xE01, 0xE2F,
    0xE30, 0xE31, 0xE32, 0xE34, 0xE40, 0xE46, 0xE81, 0xE83, 0xE84, 0xE85, 0xE87, 0xE89, 0xE8A,
    0xE8B, 0xE8D, 0xE8E, 0xE94, 0xE98, 0xE99, 0xEA0, 0xEA1, 0xEA4, 0xEA5, 0xEA6, 0xEA7, 0xEA8,
    0xEAA, 0xEAC, 0xEAD, 0xEAF, 0xEB0, 0xEB1, 0xEB2, 0xEB4, 0xEBD, 0xEBE, 0xEC0, 0xEC5, 0xF40,
    0xF48, 0xF49, 0xF6A, 0x10A0, 0x10C6, 0x10D0, 0x10F7, 0x1100, 0x1101, 0x1102, 0x1104, 0x1105,
    0x1108, 0x1109, 0x110A, 0x110B, 0x110D, 0x110E, 0x1113, 0x113C, 0x113D, 0x113E, 0x113F, 0x1140,
    0x1141, 0x114C, 0x114D, 0x114E, 0x114F, 0x1150, 0x1151, 0x1154, 0x1156, 0x1159, 0x115A, 0x115F,
    0x1162, 0x1163, 0x1164, 0x1165, 0x1166, 0x1167, 0x1168, 0x1169, 0x116A, 0x116D, 0x116F, 0x1172,
    0x1174, 0x1175, 0x1176, 0x119E, 0x119F, 0x11A8, 0x11A9, 0x11AB, 0x11AC, 0x11AE, 0x11B0, 0x11B7,
    0x11B9, 0x11BA, 0x11BB, 0x11BC, 0x11C3, 0x11EB, 0x11EC, 0x11F0, 0x11F1, 0x11F9, 0x11FA, 0x1E00,
    0x1E9C, 0x1EA0, 0x1EFA, 0x1F00, 0x1F16, 0x1F18, 0x1F1E, 0x1F20, 0x1F46, 0x1F48, 0x1F4E, 0x1F50,
    0x1F58, 0x1F59, 0x1F5A, 0x1F5B, 0x1F5C, 0x1F5D, 0x1F5E, 0x1F5F, 0x1F7E, 0x1F80, 0x1FB5, 0x1FB6,
    0x1FBD, 0x1FBE, 0x1FBF, 0x1FC2, 0x1FC5, 0x1FC6, 0x1FCD, 0x1FD0, 0x1FD4, 0x1FD6, 0x1FDC, 0x1FE0,
    0x1FED, 0x1FF2, 0x1FF5, 0x1FF6, 0x1FFD, 0x2126, 0x2127, 0x212A, 0x212C, 0x212E, 0x212F, 0x2180,
    0x2183, 0x3007, 0x3008, 0x3021, 0x302A, 0x3041, 0x3095, 0x30A1, 0x30FB, 0x3105, 0x312D, 0x4E00,
    0x9FA6, 0xAC00, 0xD7A4]

/-- Characters of names, the colon apart. -/
def nameChars : CharSet where
  bounds := [
    0x2D, 0x2F, 0x30, 0x3A, 0x41, 0x5B, 0x5F, 0x60, 0x61, 0x7B, 0xB7, 0xB8, 0xC0, 0xD7, 0xD8, 0xF7,
    0xF8, 0x132, 0x134, 0x13F, 0x141, 0x149, 0x14A, 0x17F, 0x180, 0x1C4, 0x1CD, 0x1F1, 0x1F4, 0x1F6,
    0x1FA, 0x218, 0x250, 0x2A9, 0x2BB, 0x2C2, 0x2D0, 0x2D2, 0x300, 0x346, 0x360, 0x362, 0x386,
    0x38B, 0x38C, 0x38D, 0x38E, 0x3A2, 0x3A3, 0x3CF, 0x3D0, 0x3D7, 0x3DA, 0x3DB, 0x3DC, 0x3DD,
    0x3DE, 0x3DF, 0x3E0, 0x3E1, 0x3E2, 0x3F4, 0x401, 0x40D, 0x40E, 0x450, 0x451, 0x45D, 0x45E,
    0x482, 0x483, 0x487, 0x490, 0x4C5, 0x4C7, 0x4C9, 0x4CB, 0x4CD, 0x4D0, 0x4EC, 0x4EE, 0x4F6,
    0x4F8, 0x4FA, 0x531, 0x557, 0x559, 0x55A, 0x561, 0x587, 0x591, 0x5A2, 0x5A3, 0x5BA, 0x5BB,
    0x5BE, 0x5BF, 0x5C0, 0x5C1, 0x5C3, 0x5C4, 0x5C5, 0x5D0, 0x5EB, 0x5F0, 0x5F3, 0x621, 0x63B,
    0x640, 0x653, 0x660, 0x66A, 0x670, 0x6B8, 0x6BA, 0x6BF, 0x6C0, 0x6CF, 0x6D0, 0x6D4, 0x6D5,
    0x6E9, 0x6EA, 0x6EE, 0x6F0, 0x6FA, 0x901, 0x904, 0x905, 0x93A, 0x93C, 0x94E, 0x951, 0x955,
    0x958, 0x964, 0x966, 0x970, 0x981, 0x984, 0x985, 0x98D, 0x98F, 0x991, 0x993, 0x9A9, 0x9AA,
    0x9B1, 0x9B2, 0x9B3, 0x9B6, 0x9BA, 0x9BC, 0x9BD, 0x9BE, 0x9C5, 0x9C7, 0x9C9, 0x9CB, 0x9CE,
    0x9D7, 0x9D8, 0x9DC, 0x9DE, 0x9DF, 0x9E4, 0x9E6, 0x9F2, 0xA02, 0xA03, 0xA05, 0xA0B, 0xA0F,
    0xA11, 0xA13, 0xA29, 0xA2A, 0xA31, 0xA32, 0xA34, 0xA35, 0xA37, 0xA38, 0xA3A, 0xA3C, 0xA3D,
    0xA3E, 0xA43, 0xA47, 0xA49, 0xA4B, 0xA4E, 0xA59, 0xA5D, 0xA5E, 0xA5F, 0xA66, 0xA75, 0xA81,
    0xA84, 0xA85, 0xA8C, 0xA8D, 0xA8E, 0xA8F, 0xA92, 0xA93, 0xAA9, 0xAAA, 0xAB1, 0xAB2, 0xAB4,
    0xAB5, 0xABA, 0xABC, 0xAC6, 0xAC7, 0xACA, 0xACB, 0xACE, 0xAE0, 0xAE1, 0xAE6, 0xAF0, 0xB01,
    0xB04, 0xB05, 0xB0D, 0xB0F, 0xB11, 0xB13, 0xB29, 0xB2A, 0xB31, 0xB32, 0xB34, 0xB36, 0xB3A,
    0xB3C, 0xB44, 0xB47, 0xB49, 0xB4B, 0xB4E, 0xB56, 0xB58, 0xB5C, 0xB5E, 0xB5F, 0xB62, 0xB66,
    0xB70, 0xB82, 0xB84, 0xB85, 0xB8B, 0xB8E, 0xB91, 0xB92, 0xB96, 0xB99, 0xB9B, 0xB9C, 0xB9D,
    0xB9E, 0xBA0, 0xBA3, 0xBA5, 0xBA8, 0xBAB, 0xBAE, 0xBB6, 0xBB7, 0xBBA, 0xBBE, 0xBC3, 0xBC6,
    0xBC9, 0xBCA, 0xBCE, 0xBD7, 0xBD8, 0xBE7, 0xBF0, 0xC01, 0xC04, 0xC05, 0xC0D, 0xC0E, 0xC11,
    0xC12, 0xC29, 0xC2A, 0xC34, 0xC35, 0xC3A, 0xC3E, 0xC45, 0xC46, 0xC49, 0xC4A, 0xC4E, 0xC55,
    0xC57, 0xC60, 0xC62, 0xC66, 0xC70, 0xC82, 0xC84, 0xC85, 0xC8D, 0xC8E, 0xC91, 0xC92, 0xCA9,
    0xCAA, 0xCB4, 0xCB5, 0xCBA, 0xCBE, 0xCC5, 0xCC6, 0xCC9, 0xCCA, 0xCCE, 0xCD5, 0xCD7, 0xCDE,
    0xCDF, 0xCE0, 0xCE2, 0xCE6, 0xCF0, 0xD02, 0xD04, 0xD05, 0xD0D, 0xD0E, 0xD11, 0xD12, 0xD29,
    0xD2A, 0xD3A, 0xD3E, 0xD44, 0xD46, 0xD49, 0xD4A, 0xD4E, 0xD57, 0xD58, 0xD60, 0xD62, 0xD66,
    0xD70, 0xE01, 0xE2F, 0xE30, 0xE3B, 0xE40, 0xE4F, 0xE50, 0xE5A, 0xE81, 0xE83, 0xE84, 0xE85,
    0xE87, 0xE89, 0xE8A, 0xE8B, 0xE8D, 0xE8E, 0xE94, 0xE98, 0xE99, 0xEA0, 0xEA1, 0xEA4, 0xEA5,
    0xEA6, 0xEA7, 0xEA8, 0xEAA, 0xEAC, 0xEAD, 0xEAF, 0xEB0, 0xEBA, 0xEBB, 0xEBE, 0xEC0, 0xEC5,
    0xEC6, 0xEC7, 0xEC8, 0xECE, 0xED0, 0xEDA, 0xF18, 0xF1A, 0xF20, 0xF2A, 0xF35, 0xF36, 0xF37,
    0xF38, 0xF39, 0xF3A, 0xF3E, 0xF48, 0xF49, 0xF6A, 0xF71, 0xF85, 0xF86, 0xF8C, 0xF90, 0xF96,
    0xF97, 0xF98, 0xF99, 0xFAE, 0xFB1, 0xFB8, 0xFB9, 0xFBA, 0x10A0, 0x10C6, 0x10D0, 0x10F7, 0x1100,
    0x1101, 0x1102, 0x1104, 0x1105, 0x1108, 0x1109, 0x110A, 0x110B, 0x110D, 0x110E, 0x1113, 0x113C,
    0x113D, 0x113E, 0x113F, 0x1140, 0x1141, 0x114C, 0x114D, 0x114E, 0x114F, 0x1150, 0x1151, 0x1154,
    0x1156, 0x1159, 0x115A, 0x115F, 0x1162, 0x1163, 0x1164, 0x1165, 0x1166, 0x1167, 0x1168, 0x1169,
    0x116A, 0x116D, 0x116F, 0x1172, 0x1174, 0x1175, 0x1176, 0x119E, 0x119F, 0x11A8, 0x11A9, 0x11AB,
    0x11AC, 0x11AE, 0x11B0, 0x11B7, 0x11B9, 0x11BA, 0x11BB, 0x11BC, 0x11C3, 0x11EB, 0x11EC, 0x11F0,
    0x11F1, 0x11F9, 0x11FA, 0x1E00, 0x1E9C, 0x1EA0, 0x1EFA, 0x1F00, 0x1F16, 0x1F18, 0x1F1E, 0x1F20,
    0x1F46, 0x1F48, 0x1F4E, 0x1F50, 0x1F58, 0x1F59, 0x1F5A, 0x1F5B, 0x1F5C, 0x1F5D, 0x1F5E, 0x1F5F,
    0x1F7E, 0x1F80, 0x1FB5, 0x1FB6, 0x1FBD, 0x1FBE, 0x1FBF, 0x1FC2, 0x1FC5, 0x1FC6, 0x1FCD, 0x1FD0,
    0x1FD4, 0x1FD6, 0x1FDC, 0x1FE0, 0x1FED, 0x1FF2, 0x1FF5, 0x1FF6, 0x1FFD, 0x20D0, 0x20DD, 0x20E1,
    0x20E2, 0x2126, 0x2127, 0x212A, 0x212C, 0x212E, 0x212F, 0x2180, 0x2183, 0x3005, 0x3006, 0x3007,
    0x3008, 0x3021, 0x3030, 0x3031, 0x3036, 0x3041, 0x3095, 0x3099, 0x309B, 0x309D, 0x309F, 0x30A1,
    0x30FB, 0x30FC, 0x30FF, 0x3105, 0x312D, 0x4E00, 0x9FA6, 0xAC00, 0xD7A4]

def isNameStart (c : Char) : Bool :=
  if c.toNat < 128 then c.isAlpha || c == '_' else nameStarts.contains c

def isNameChar (c : Char) : Bool :=
  if c.toNat < 128 then c.isAlphanum || c == '_' || c == '-' || c == '.' else nameChars.contains c

/-- The blanks of markup. -/
def isSpace (c : Char) : Bool :=
  c == ' ' || c == '\t' || c == '\n' || c == '\r'

/-- Characters that a document may hold. -/
def isXmlChar (c : Char) : Bool :=
  if c.toNat < 32 then isSpace c else c != malformed && c != truncated

/-- The character that a reference names by its number, if a document may hold it. -/
def charOfNumber? (n : Nat) : Option Char :=
  if h : n.isValidChar then
    let c := Char.ofNatAux n h
    if isXmlChar c then some c else none
  else none

/-- Every kind of line end becomes a line feed. -/
def normalizeLines : List Char → List Char
  | [] => []
  | '\r' :: '\n' :: cs => '\n' :: normalizeLines cs
  | c :: cs => (if c = '\r' then '\n' else c) :: normalizeLines cs

end Pamphlet.Markup
