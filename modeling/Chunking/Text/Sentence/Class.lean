import Chunking.Text.CodeTable

/-!
# Character classes of sentence division

The Sentence_Break property: every character belongs to one class, and the rules
of sentence division look at nothing else.
-/

namespace Chunking.Text.Sentence

/-- The Sentence_Break value of a character. -/
inductive CharClass where
  | carriageReturn
  | lineFeed
  | separator
  | extend
  | format
  | space
  | lower
  | upper
  | letter
  | numeric
  /-- A full stop, which may also end an abbreviation or stand in a number. -/
  | point
  /-- A mark that always ends a sentence. -/
  | terminator
  /-- A mark after which the sentence goes on. -/
  | continuation
  | close
  | other
deriving DecidableEq

/-- What the characters of one stretch of the table have in common. -/
inductive StretchClass where
  | every (charClass : CharClass)
  /-- Upper-case and lower-case letters take turns, upper case first. -/
  | cased

def classesBelow800 : Array (Stretch StretchClass) := #[
  ⟨0x9, 0x9, .every .space⟩, ⟨0xA, 0xA, .every .lineFeed⟩, ⟨0xB, 0xC, .every .space⟩,
  ⟨0xD, 0xD, .every .carriageReturn⟩, ⟨0x20, 0x20, .every .space⟩,
  ⟨0x21, 0x21, .every .terminator⟩, ⟨0x22, 0x22, .every .close⟩, ⟨0x27, 0x29, .every .close⟩,
  ⟨0x2C, 0x2D, .every .continuation⟩, ⟨0x2E, 0x2E, .every .point⟩, ⟨0x30, 0x39, .every .numeric⟩,
  ⟨0x3A, 0x3B, .every .continuation⟩, ⟨0x3F, 0x3F, .every .terminator⟩,
  ⟨0x41, 0x5A, .every .upper⟩, ⟨0x5B, 0x5B, .every .close⟩, ⟨0x5D, 0x5D, .every .close⟩,
  ⟨0x61, 0x7A, .every .lower⟩, ⟨0x7B, 0x7B, .every .close⟩, ⟨0x7D, 0x7D, .every .close⟩,
  ⟨0x85, 0x85, .every .separator⟩, ⟨0xA0, 0xA0, .every .space⟩, ⟨0xAA, 0xAA, .every .lower⟩,
  ⟨0xAB, 0xAB, .every .close⟩, ⟨0xAD, 0xAD, .every .format⟩, ⟨0xB5, 0xB5, .every .lower⟩,
  ⟨0xBA, 0xBA, .every .lower⟩, ⟨0xBB, 0xBB, .every .close⟩, ⟨0xC0, 0xD6, .every .upper⟩,
  ⟨0xD8, 0xDE, .every .upper⟩, ⟨0xDF, 0xF6, .every .lower⟩, ⟨0xF8, 0xFF, .every .lower⟩,
  ⟨0x100, 0x136, .cased⟩, ⟨0x137, 0x138, .every .lower⟩, ⟨0x139, 0x147, .cased⟩,
  ⟨0x148, 0x149, .every .lower⟩, ⟨0x14A, 0x177, .cased⟩, ⟨0x178, 0x179, .every .upper⟩,
  ⟨0x17A, 0x17A, .every .lower⟩, ⟨0x17B, 0x17B, .every .upper⟩, ⟨0x17C, 0x17C, .every .lower⟩,
  ⟨0x17D, 0x17D, .every .upper⟩, ⟨0x17E, 0x180, .every .lower⟩, ⟨0x181, 0x182, .every .upper⟩,
  ⟨0x183, 0x183, .every .lower⟩, ⟨0x184, 0x184, .every .upper⟩, ⟨0x185, 0x185, .every .lower⟩,
  ⟨0x186, 0x187, .every .upper⟩, ⟨0x188, 0x188, .every .lower⟩, ⟨0x189, 0x18B, .every .upper⟩,
  ⟨0x18C, 0x18D, .every .lower⟩, ⟨0x18E, 0x191, .every .upper⟩, ⟨0x192, 0x192, .every .lower⟩,
  ⟨0x193, 0x194, .every .upper⟩, ⟨0x195, 0x195, .every .lower⟩, ⟨0x196, 0x198, .every .upper⟩,
  ⟨0x199, 0x19B, .every .lower⟩, ⟨0x19C, 0x19D, .every .upper⟩, ⟨0x19E, 0x19E, .every .lower⟩,
  ⟨0x19F, 0x1A0, .every .upper⟩, ⟨0x1A1, 0x1A1, .every .lower⟩, ⟨0x1A2, 0x1A5, .cased⟩,
  ⟨0x1A6, 0x1A7, .every .upper⟩, ⟨0x1A8, 0x1A8, .every .lower⟩, ⟨0x1A9, 0x1A9, .every .upper⟩,
  ⟨0x1AA, 0x1AB, .every .lower⟩, ⟨0x1AC, 0x1AC, .every .upper⟩, ⟨0x1AD, 0x1AD, .every .lower⟩,
  ⟨0x1AE, 0x1AF, .every .upper⟩, ⟨0x1B0, 0x1B0, .every .lower⟩, ⟨0x1B1, 0x1B3, .every .upper⟩,
  ⟨0x1B4, 0x1B4, .every .lower⟩, ⟨0x1B5, 0x1B5, .every .upper⟩, ⟨0x1B6, 0x1B6, .every .lower⟩,
  ⟨0x1B7, 0x1B8, .every .upper⟩, ⟨0x1B9, 0x1BA, .every .lower⟩, ⟨0x1BB, 0x1BB, .every .letter⟩,
  ⟨0x1BC, 0x1BC, .every .upper⟩, ⟨0x1BD, 0x1BF, .every .lower⟩, ⟨0x1C0, 0x1C3, .every .letter⟩,
  ⟨0x1C4, 0x1C5, .every .upper⟩, ⟨0x1C6, 0x1C6, .every .lower⟩, ⟨0x1C7, 0x1C8, .every .upper⟩,
  ⟨0x1C9, 0x1C9, .every .lower⟩, ⟨0x1CA, 0x1CB, .every .upper⟩, ⟨0x1CC, 0x1CC, .every .lower⟩,
  ⟨0x1CD, 0x1DB, .cased⟩, ⟨0x1DC, 0x1DD, .every .lower⟩, ⟨0x1DE, 0x1EE, .cased⟩,
  ⟨0x1EF, 0x1F0, .every .lower⟩, ⟨0x1F1, 0x1F2, .every .upper⟩, ⟨0x1F3, 0x1F3, .every .lower⟩,
  ⟨0x1F4, 0x1F4, .every .upper⟩, ⟨0x1F5, 0x1F5, .every .lower⟩, ⟨0x1F6, 0x1F8, .every .upper⟩,
  ⟨0x1F9, 0x1F9, .every .lower⟩, ⟨0x1FA, 0x232, .cased⟩, ⟨0x233, 0x239, .every .lower⟩,
  ⟨0x23A, 0x23B, .every .upper⟩, ⟨0x23C, 0x23C, .every .lower⟩, ⟨0x23D, 0x23E, .every .upper⟩,
  ⟨0x23F, 0x240, .every .lower⟩, ⟨0x241, 0x241, .every .upper⟩, ⟨0x242, 0x242, .every .lower⟩,
  ⟨0x243, 0x246, .every .upper⟩, ⟨0x247, 0x247, .every .lower⟩, ⟨0x248, 0x24E, .cased⟩,
  ⟨0x24F, 0x293, .every .lower⟩, ⟨0x294, 0x295, .every .letter⟩, ⟨0x296, 0x2B8, .every .lower⟩,
  ⟨0x2B9, 0x2BF, .every .letter⟩, ⟨0x2C0, 0x2C1, .every .lower⟩, ⟨0x2C6, 0x2D1, .every .letter⟩,
  ⟨0x2E0, 0x2E4, .every .lower⟩, ⟨0x2EC, 0x2EC, .every .letter⟩, ⟨0x2EE, 0x2EE, .every .letter⟩,
  ⟨0x300, 0x36F, .every .extend⟩, ⟨0x370, 0x373, .cased⟩, ⟨0x374, 0x374, .every .letter⟩,
  ⟨0x376, 0x376, .every .upper⟩, ⟨0x377, 0x377, .every .lower⟩, ⟨0x37A, 0x37D, .every .lower⟩,
  ⟨0x37E, 0x37E, .every .continuation⟩, ⟨0x37F, 0x37F, .every .upper⟩,
  ⟨0x386, 0x386, .every .upper⟩, ⟨0x388, 0x38A, .every .upper⟩, ⟨0x38C, 0x38C, .every .upper⟩,
  ⟨0x38E, 0x38F, .every .upper⟩, ⟨0x390, 0x390, .every .lower⟩, ⟨0x391, 0x3A1, .every .upper⟩,
  ⟨0x3A3, 0x3AB, .every .upper⟩, ⟨0x3AC, 0x3CE, .every .lower⟩, ⟨0x3CF, 0x3CF, .every .upper⟩,
  ⟨0x3D0, 0x3D1, .every .lower⟩, ⟨0x3D2, 0x3D4, .every .upper⟩, ⟨0x3D5, 0x3D7, .every .lower⟩,
  ⟨0x3D8, 0x3EE, .cased⟩, ⟨0x3EF, 0x3F3, .every .lower⟩, ⟨0x3F4, 0x3F4, .every .upper⟩,
  ⟨0x3F5, 0x3F5, .every .lower⟩, ⟨0x3F7, 0x3F7, .every .upper⟩, ⟨0x3F8, 0x3F8, .every .lower⟩,
  ⟨0x3F9, 0x3FA, .every .upper⟩, ⟨0x3FB, 0x3FC, .every .lower⟩, ⟨0x3FD, 0x42F, .every .upper⟩,
  ⟨0x430, 0x45F, .every .lower⟩, ⟨0x460, 0x481, .cased⟩, ⟨0x483, 0x489, .every .extend⟩,
  ⟨0x48A, 0x4BF, .cased⟩, ⟨0x4C0, 0x4C1, .every .upper⟩, ⟨0x4C2, 0x4C2, .every .lower⟩,
  ⟨0x4C3, 0x4CD, .cased⟩, ⟨0x4CE, 0x4CF, .every .lower⟩, ⟨0x4D0, 0x52F, .cased⟩,
  ⟨0x531, 0x556, .every .upper⟩, ⟨0x559, 0x559, .every .letter⟩,
  ⟨0x55D, 0x55D, .every .continuation⟩, ⟨0x560, 0x588, .every .lower⟩,
  ⟨0x589, 0x589, .every .terminator⟩, ⟨0x591, 0x5BD, .every .extend⟩,
  ⟨0x5BF, 0x5BF, .every .extend⟩, ⟨0x5C1, 0x5C2, .every .extend⟩, ⟨0x5C4, 0x5C5, .every .extend⟩,
  ⟨0x5C7, 0x5C7, .every .extend⟩, ⟨0x5D0, 0x5EA, .every .letter⟩, ⟨0x5EF, 0x5F3, .every .letter⟩,
  ⟨0x600, 0x605, .every .numeric⟩, ⟨0x60C, 0x60D, .every .continuation⟩,
  ⟨0x610, 0x61A, .every .extend⟩, ⟨0x61C, 0x61C, .every .format⟩,
  ⟨0x61D, 0x61F, .every .terminator⟩, ⟨0x620, 0x64A, .every .letter⟩,
  ⟨0x64B, 0x65F, .every .extend⟩, ⟨0x660, 0x669, .every .numeric⟩, ⟨0x66B, 0x66C, .every .numeric⟩,
  ⟨0x66E, 0x66F, .every .letter⟩, ⟨0x670, 0x670, .every .extend⟩, ⟨0x671, 0x6D3, .every .letter⟩,
  ⟨0x6D4, 0x6D4, .every .terminator⟩, ⟨0x6D5, 0x6D5, .every .letter⟩,
  ⟨0x6D6, 0x6DC, .every .extend⟩, ⟨0x6DD, 0x6DD, .every .numeric⟩, ⟨0x6DF, 0x6E4, .every .extend⟩,
  ⟨0x6E5, 0x6E6, .every .letter⟩, ⟨0x6E7, 0x6E8, .every .extend⟩, ⟨0x6EA, 0x6ED, .every .extend⟩,
  ⟨0x6EE, 0x6EF, .every .letter⟩, ⟨0x6F0, 0x6F9, .every .numeric⟩, ⟨0x6FA, 0x6FC, .every .letter⟩,
  ⟨0x6FF, 0x6FF, .every .letter⟩, ⟨0x700, 0x702, .every .terminator⟩,
  ⟨0x70F, 0x70F, .every .format⟩, ⟨0x710, 0x710, .every .letter⟩, ⟨0x711, 0x711, .every .extend⟩,
  ⟨0x712, 0x72F, .every .letter⟩, ⟨0x730, 0x74A, .every .extend⟩, ⟨0x74D, 0x7A5, .every .letter⟩,
  ⟨0x7A6, 0x7B0, .every .extend⟩, ⟨0x7B1, 0x7B1, .every .letter⟩, ⟨0x7C0, 0x7C9, .every .numeric⟩,
  ⟨0x7CA, 0x7EA, .every .letter⟩, ⟨0x7EB, 0x7F3, .every .extend⟩, ⟨0x7F4, 0x7F5, .every .letter⟩,
  ⟨0x7F8, 0x7F8, .every .continuation⟩, ⟨0x7F9, 0x7F9, .every .terminator⟩,
  ⟨0x7FA, 0x7FA, .every .letter⟩, ⟨0x7FD, 0x7FD, .every .extend⟩]

def classesFrom800 : Array (Stretch StretchClass) := #[
  ⟨0x800, 0x815, .every .letter⟩, ⟨0x816, 0x819, .every .extend⟩, ⟨0x81A, 0x81A, .every .letter⟩,
  ⟨0x81B, 0x823, .every .extend⟩, ⟨0x824, 0x824, .every .letter⟩, ⟨0x825, 0x827, .every .extend⟩,
  ⟨0x828, 0x828, .every .letter⟩, ⟨0x829, 0x82D, .every .extend⟩,
  ⟨0x837, 0x837, .every .terminator⟩, ⟨0x839, 0x839, .every .terminator⟩,
  ⟨0x83D, 0x83E, .every .terminator⟩, ⟨0x840, 0x858, .every .letter⟩,
  ⟨0x859, 0x85B, .every .extend⟩, ⟨0x860, 0x86A, .every .letter⟩, ⟨0x870, 0x887, .every .letter⟩,
  ⟨0x889, 0x88F, .every .letter⟩, ⟨0x890, 0x891, .every .numeric⟩, ⟨0x897, 0x89F, .every .extend⟩,
  ⟨0x8A0, 0x8C9, .every .letter⟩, ⟨0x8CA, 0x8E1, .every .extend⟩, ⟨0x8E2, 0x8E2, .every .numeric⟩,
  ⟨0x8E3, 0x903, .every .extend⟩, ⟨0x904, 0x939, .every .letter⟩, ⟨0x93A, 0x93C, .every .extend⟩,
  ⟨0x93D, 0x93D, .every .letter⟩, ⟨0x93E, 0x94F, .every .extend⟩, ⟨0x950, 0x950, .every .letter⟩,
  ⟨0x951, 0x957, .every .extend⟩, ⟨0x958, 0x961, .every .letter⟩, ⟨0x962, 0x963, .every .extend⟩,
  ⟨0x964, 0x965, .every .terminator⟩, ⟨0x966, 0x96F, .every .numeric⟩,
  ⟨0x971, 0x980, .every .letter⟩, ⟨0x981, 0x983, .every .extend⟩, ⟨0x985, 0x98C, .every .letter⟩,
  ⟨0x98F, 0x990, .every .letter⟩, ⟨0x993, 0x9A8, .every .letter⟩, ⟨0x9AA, 0x9B0, .every .letter⟩,
  ⟨0x9B2, 0x9B2, .every .letter⟩, ⟨0x9B6, 0x9B9, .every .letter⟩, ⟨0x9BC, 0x9BC, .every .extend⟩,
  ⟨0x9BD, 0x9BD, .every .letter⟩, ⟨0x9BE, 0x9C4, .every .extend⟩, ⟨0x9C7, 0x9C8, .every .extend⟩,
  ⟨0x9CB, 0x9CD, .every .extend⟩, ⟨0x9CE, 0x9CE, .every .letter⟩, ⟨0x9D7, 0x9D7, .every .extend⟩,
  ⟨0x9DC, 0x9DD, .every .letter⟩, ⟨0x9DF, 0x9E1, .every .letter⟩, ⟨0x9E2, 0x9E3, .every .extend⟩,
  ⟨0x9E6, 0x9EF, .every .numeric⟩, ⟨0x9F0, 0x9F1, .every .letter⟩, ⟨0x9FC, 0x9FC, .every .letter⟩,
  ⟨0x9FE, 0x9FE, .every .extend⟩, ⟨0xA01, 0xA03, .every .extend⟩, ⟨0xA05, 0xA0A, .every .letter⟩,
  ⟨0xA0F, 0xA10, .every .letter⟩, ⟨0xA13, 0xA28, .every .letter⟩, ⟨0xA2A, 0xA30, .every .letter⟩,
  ⟨0xA32, 0xA33, .every .letter⟩, ⟨0xA35, 0xA36, .every .letter⟩, ⟨0xA38, 0xA39, .every .letter⟩,
  ⟨0xA3C, 0xA3C, .every .extend⟩, ⟨0xA3E, 0xA42, .every .extend⟩, ⟨0xA47, 0xA48, .every .extend⟩,
  ⟨0xA4B, 0xA4D, .every .extend⟩, ⟨0xA51, 0xA51, .every .extend⟩, ⟨0xA59, 0xA5C, .every .letter⟩,
  ⟨0xA5E, 0xA5E, .every .letter⟩, ⟨0xA66, 0xA6F, .every .numeric⟩, ⟨0xA70, 0xA71, .every .extend⟩,
  ⟨0xA72, 0xA74, .every .letter⟩, ⟨0xA75, 0xA75, .every .extend⟩, ⟨0xA81, 0xA83, .every .extend⟩,
  ⟨0xA85, 0xA8D, .every .letter⟩, ⟨0xA8F, 0xA91, .every .letter⟩, ⟨0xA93, 0xAA8, .every .letter⟩,
  ⟨0xAAA, 0xAB0, .every .letter⟩, ⟨0xAB2, 0xAB3, .every .letter⟩, ⟨0xAB5, 0xAB9, .every .letter⟩,
  ⟨0xABC, 0xABC, .every .extend⟩, ⟨0xABD, 0xABD, .every .letter⟩, ⟨0xABE, 0xAC5, .every .extend⟩,
  ⟨0xAC7, 0xAC9, .every .extend⟩, ⟨0xACB, 0xACD, .every .extend⟩, ⟨0xAD0, 0xAD0, .every .letter⟩,
  ⟨0xAE0, 0xAE1, .every .letter⟩, ⟨0xAE2, 0xAE3, .every .extend⟩, ⟨0xAE6, 0xAEF, .every .numeric⟩,
  ⟨0xAF9, 0xAF9, .every .letter⟩, ⟨0xAFA, 0xAFF, .every .extend⟩, ⟨0xB01, 0xB03, .every .extend⟩,
  ⟨0xB05, 0xB0C, .every .letter⟩, ⟨0xB0F, 0xB10, .every .letter⟩, ⟨0xB13, 0xB28, .every .letter⟩,
  ⟨0xB2A, 0xB30, .every .letter⟩, ⟨0xB32, 0xB33, .every .letter⟩, ⟨0xB35, 0xB39, .every .letter⟩,
  ⟨0xB3C, 0xB3C, .every .extend⟩, ⟨0xB3D, 0xB3D, .every .letter⟩, ⟨0xB3E, 0xB44, .every .extend⟩,
  ⟨0xB47, 0xB48, .every .extend⟩, ⟨0xB4B, 0xB4D, .every .extend⟩, ⟨0xB55, 0xB57, .every .extend⟩,
  ⟨0xB5C, 0xB5D, .every .letter⟩, ⟨0xB5F, 0xB61, .every .letter⟩, ⟨0xB62, 0xB63, .every .extend⟩,
  ⟨0xB66, 0xB6F, .every .numeric⟩, ⟨0xB71, 0xB71, .every .letter⟩, ⟨0xB82, 0xB82, .every .extend⟩,
  ⟨0xB83, 0xB83, .every .letter⟩, ⟨0xB85, 0xB8A, .every .letter⟩, ⟨0xB8E, 0xB90, .every .letter⟩,
  ⟨0xB92, 0xB95, .every .letter⟩, ⟨0xB99, 0xB9A, .every .letter⟩, ⟨0xB9C, 0xB9C, .every .letter⟩,
  ⟨0xB9E, 0xB9F, .every .letter⟩, ⟨0xBA3, 0xBA4, .every .letter⟩, ⟨0xBA8, 0xBAA, .every .letter⟩,
  ⟨0xBAE, 0xBB9, .every .letter⟩, ⟨0xBBE, 0xBC2, .every .extend⟩, ⟨0xBC6, 0xBC8, .every .extend⟩,
  ⟨0xBCA, 0xBCD, .every .extend⟩, ⟨0xBD0, 0xBD0, .every .letter⟩, ⟨0xBD7, 0xBD7, .every .extend⟩,
  ⟨0xBE6, 0xBEF, .every .numeric⟩, ⟨0xC00, 0xC04, .every .extend⟩, ⟨0xC05, 0xC0C, .every .letter⟩,
  ⟨0xC0E, 0xC10, .every .letter⟩, ⟨0xC12, 0xC28, .every .letter⟩, ⟨0xC2A, 0xC39, .every .letter⟩,
  ⟨0xC3C, 0xC3C, .every .extend⟩, ⟨0xC3D, 0xC3D, .every .letter⟩, ⟨0xC3E, 0xC44, .every .extend⟩,
  ⟨0xC46, 0xC48, .every .extend⟩, ⟨0xC4A, 0xC4D, .every .extend⟩, ⟨0xC55, 0xC56, .every .extend⟩,
  ⟨0xC58, 0xC5A, .every .letter⟩, ⟨0xC5C, 0xC5D, .every .letter⟩, ⟨0xC60, 0xC61, .every .letter⟩,
  ⟨0xC62, 0xC63, .every .extend⟩, ⟨0xC66, 0xC6F, .every .numeric⟩, ⟨0xC80, 0xC80, .every .letter⟩,
  ⟨0xC81, 0xC83, .every .extend⟩, ⟨0xC85, 0xC8C, .every .letter⟩, ⟨0xC8E, 0xC90, .every .letter⟩,
  ⟨0xC92, 0xCA8, .every .letter⟩, ⟨0xCAA, 0xCB3, .every .letter⟩, ⟨0xCB5, 0xCB9, .every .letter⟩,
  ⟨0xCBC, 0xCBC, .every .extend⟩, ⟨0xCBD, 0xCBD, .every .letter⟩, ⟨0xCBE, 0xCC4, .every .extend⟩,
  ⟨0xCC6, 0xCC8, .every .extend⟩, ⟨0xCCA, 0xCCD, .every .extend⟩, ⟨0xCD5, 0xCD6, .every .extend⟩,
  ⟨0xCDC, 0xCDE, .every .letter⟩, ⟨0xCE0, 0xCE1, .every .letter⟩, ⟨0xCE2, 0xCE3, .every .extend⟩,
  ⟨0xCE6, 0xCEF, .every .numeric⟩, ⟨0xCF1, 0xCF2, .every .letter⟩, ⟨0xCF3, 0xCF3, .every .extend⟩,
  ⟨0xD00, 0xD03, .every .extend⟩, ⟨0xD04, 0xD0C, .every .letter⟩, ⟨0xD0E, 0xD10, .every .letter⟩,
  ⟨0xD12, 0xD3A, .every .letter⟩, ⟨0xD3B, 0xD3C, .every .extend⟩, ⟨0xD3D, 0xD3D, .every .letter⟩,
  ⟨0xD3E, 0xD44, .every .extend⟩, ⟨0xD46, 0xD48, .every .extend⟩, ⟨0xD4A, 0xD4D, .every .extend⟩,
  ⟨0xD4E, 0xD4E, .every .letter⟩, ⟨0xD54, 0xD56, .every .letter⟩, ⟨0xD57, 0xD57, .every .extend⟩,
  ⟨0xD5F, 0xD61, .every .letter⟩, ⟨0xD62, 0xD63, .every .extend⟩, ⟨0xD66, 0xD6F, .every .numeric⟩,
  ⟨0xD7A, 0xD7F, .every .letter⟩, ⟨0xD81, 0xD83, .every .extend⟩, ⟨0xD85, 0xD96, .every .letter⟩,
  ⟨0xD9A, 0xDB1, .every .letter⟩, ⟨0xDB3, 0xDBB, .every .letter⟩, ⟨0xDBD, 0xDBD, .every .letter⟩,
  ⟨0xDC0, 0xDC6, .every .letter⟩, ⟨0xDCA, 0xDCA, .every .extend⟩, ⟨0xDCF, 0xDD4, .every .extend⟩,
  ⟨0xDD6, 0xDD6, .every .extend⟩, ⟨0xDD8, 0xDDF, .every .extend⟩, ⟨0xDE6, 0xDEF, .every .numeric⟩,
  ⟨0xDF2, 0xDF3, .every .extend⟩, ⟨0xE01, 0xE30, .every .letter⟩, ⟨0xE31, 0xE31, .every .extend⟩,
  ⟨0xE32, 0xE33, .every .letter⟩, ⟨0xE34, 0xE3A, .every .extend⟩, ⟨0xE40, 0xE46, .every .letter⟩,
  ⟨0xE47, 0xE4E, .every .extend⟩, ⟨0xE50, 0xE59, .every .numeric⟩, ⟨0xE81, 0xE82, .every .letter⟩,
  ⟨0xE84, 0xE84, .every .letter⟩, ⟨0xE86, 0xE8A, .every .letter⟩, ⟨0xE8C, 0xEA3, .every .letter⟩,
  ⟨0xEA5, 0xEA5, .every .letter⟩, ⟨0xEA7, 0xEB0, .every .letter⟩, ⟨0xEB1, 0xEB1, .every .extend⟩,
  ⟨0xEB2, 0xEB3, .every .letter⟩, ⟨0xEB4, 0xEBC, .every .extend⟩, ⟨0xEBD, 0xEBD, .every .letter⟩,
  ⟨0xEC0, 0xEC4, .every .letter⟩, ⟨0xEC6, 0xEC6, .every .letter⟩, ⟨0xEC8, 0xECE, .every .extend⟩,
  ⟨0xED0, 0xED9, .every .numeric⟩, ⟨0xEDC, 0xEDF, .every .letter⟩, ⟨0xF00, 0xF00, .every .letter⟩,
  ⟨0xF18, 0xF19, .every .extend⟩, ⟨0xF20, 0xF29, .every .numeric⟩, ⟨0xF35, 0xF35, .every .extend⟩,
  ⟨0xF37, 0xF37, .every .extend⟩, ⟨0xF39, 0xF39, .every .extend⟩, ⟨0xF3A, 0xF3D, .every .close⟩,
  ⟨0xF3E, 0xF3F, .every .extend⟩, ⟨0xF40, 0xF47, .every .letter⟩, ⟨0xF49, 0xF6C, .every .letter⟩,
  ⟨0xF71, 0xF84, .every .extend⟩, ⟨0xF86, 0xF87, .every .extend⟩, ⟨0xF88, 0xF8C, .every .letter⟩,
  ⟨0xF8D, 0xF97, .every .extend⟩, ⟨0xF99, 0xFBC, .every .extend⟩, ⟨0xFC6, 0xFC6, .every .extend⟩,
  ⟨0x1000, 0x102A, .every .letter⟩, ⟨0x102B, 0x103E, .every .extend⟩,
  ⟨0x103F, 0x103F, .every .letter⟩, ⟨0x1040, 0x1049, .every .numeric⟩,
  ⟨0x104A, 0x104B, .every .terminator⟩, ⟨0x1050, 0x1055, .every .letter⟩,
  ⟨0x1056, 0x1059, .every .extend⟩, ⟨0x105A, 0x105D, .every .letter⟩,
  ⟨0x105E, 0x1060, .every .extend⟩, ⟨0x1061, 0x1061, .every .letter⟩,
  ⟨0x1062, 0x1064, .every .extend⟩, ⟨0x1065, 0x1066, .every .letter⟩,
  ⟨0x1067, 0x106D, .every .extend⟩, ⟨0x106E, 0x1070, .every .letter⟩,
  ⟨0x1071, 0x1074, .every .extend⟩, ⟨0x1075, 0x1081, .every .letter⟩,
  ⟨0x1082, 0x108D, .every .extend⟩, ⟨0x108E, 0x108E, .every .letter⟩,
  ⟨0x108F, 0x108F, .every .extend⟩, ⟨0x1090, 0x1099, .every .numeric⟩,
  ⟨0x109A, 0x109D, .every .extend⟩, ⟨0x10A0, 0x10C5, .every .upper⟩,
  ⟨0x10C7, 0x10C7, .every .upper⟩, ⟨0x10CD, 0x10CD, .every .upper⟩,
  ⟨0x10D0, 0x10FA, .every .letter⟩, ⟨0x10FC, 0x10FC, .every .lower⟩,
  ⟨0x10FD, 0x1248, .every .letter⟩, ⟨0x124A, 0x124D, .every .letter⟩,
  ⟨0x1250, 0x1256, .every .letter⟩, ⟨0x1258, 0x1258, .every .letter⟩,
  ⟨0x125A, 0x125D, .every .letter⟩, ⟨0x1260, 0x1288, .every .letter⟩,
  ⟨0x128A, 0x128D, .every .letter⟩, ⟨0x1290, 0x12B0, .every .letter⟩,
  ⟨0x12B2, 0x12B5, .every .letter⟩, ⟨0x12B8, 0x12BE, .every .letter⟩,
  ⟨0x12C0, 0x12C0, .every .letter⟩, ⟨0x12C2, 0x12C5, .every .letter⟩,
  ⟨0x12C8, 0x12D6, .every .letter⟩, ⟨0x12D8, 0x1310, .every .letter⟩,
  ⟨0x1312, 0x1315, .every .letter⟩, ⟨0x1318, 0x135A, .every .letter⟩,
  ⟨0x135D, 0x135F, .every .extend⟩, ⟨0x1362, 0x1362, .every .terminator⟩,
  ⟨0x1367, 0x1368, .every .terminator⟩, ⟨0x1380, 0x138F, .every .letter⟩,
  ⟨0x13A0, 0x13F5, .every .upper⟩, ⟨0x13F8, 0x13FD, .every .lower⟩,
  ⟨0x1401, 0x166C, .every .letter⟩, ⟨0x166E, 0x166E, .every .terminator⟩,
  ⟨0x166F, 0x167F, .every .letter⟩, ⟨0x1680, 0x1680, .every .space⟩,
  ⟨0x1681, 0x169A, .every .letter⟩, ⟨0x169B, 0x169C, .every .close⟩,
  ⟨0x16A0, 0x16EA, .every .letter⟩, ⟨0x16EE, 0x16F8, .every .letter⟩,
  ⟨0x1700, 0x1711, .every .letter⟩, ⟨0x1712, 0x1715, .every .extend⟩,
  ⟨0x171F, 0x1731, .every .letter⟩, ⟨0x1732, 0x1734, .every .extend⟩,
  ⟨0x1735, 0x1736, .every .terminator⟩, ⟨0x1740, 0x1751, .every .letter⟩,
  ⟨0x1752, 0x1753, .every .extend⟩, ⟨0x1760, 0x176C, .every .letter⟩,
  ⟨0x176E, 0x1770, .every .letter⟩, ⟨0x1772, 0x1773, .every .extend⟩,
  ⟨0x1780, 0x17B3, .every .letter⟩, ⟨0x17B4, 0x17D3, .every .extend⟩,
  ⟨0x17D4, 0x17D5, .every .terminator⟩, ⟨0x17D7, 0x17D7, .every .letter⟩,
  ⟨0x17DC, 0x17DC, .every .letter⟩, ⟨0x17DD, 0x17DD, .every .extend⟩,
  ⟨0x17E0, 0x17E9, .every .numeric⟩, ⟨0x1802, 0x1802, .every .continuation⟩,
  ⟨0x1803, 0x1803, .every .terminator⟩, ⟨0x1808, 0x1808, .every .continuation⟩,
  ⟨0x1809, 0x1809, .every .terminator⟩, ⟨0x180B, 0x180D, .every .extend⟩,
  ⟨0x180E, 0x180E, .every .format⟩, ⟨0x180F, 0x180F, .every .extend⟩,
  ⟨0x1810, 0x1819, .every .numeric⟩, ⟨0x1820, 0x1878, .every .letter⟩,
  ⟨0x1880, 0x1884, .every .letter⟩, ⟨0x1885, 0x1886, .every .extend⟩,
  ⟨0x1887, 0x18A8, .every .letter⟩, ⟨0x18A9, 0x18A9, .every .extend⟩,
  ⟨0x18AA, 0x18AA, .every .letter⟩, ⟨0x18B0, 0x18F5, .every .letter⟩,
  ⟨0x1900, 0x191E, .every .letter⟩, ⟨0x1920, 0x192B, .every .extend⟩,
  ⟨0x1930, 0x193B, .every .extend⟩, ⟨0x1944, 0x1945, .every .terminator⟩,
  ⟨0x1946, 0x194F, .every .numeric⟩, ⟨0x1950, 0x196D, .every .letter⟩,
  ⟨0x1970, 0x1974, .every .letter⟩, ⟨0x1980, 0x19AB, .every .letter⟩,
  ⟨0x19B0, 0x19C9, .every .letter⟩, ⟨0x19D0, 0x19DA, .every .numeric⟩,
  ⟨0x1A00, 0x1A16, .every .letter⟩, ⟨0x1A17, 0x1A1B, .every .extend⟩,
  ⟨0x1A20, 0x1A54, .every .letter⟩, ⟨0x1A55, 0x1A5E, .every .extend⟩,
  ⟨0x1A60, 0x1A7C, .every .extend⟩, ⟨0x1A7F, 0x1A7F, .every .extend⟩,
  ⟨0x1A80, 0x1A89, .every .numeric⟩, ⟨0x1A90, 0x1A99, .every .numeric⟩,
  ⟨0x1AA7, 0x1AA7, .every .letter⟩, ⟨0x1AA8, 0x1AAB, .every .terminator⟩,
  ⟨0x1AB0, 0x1ADD, .every .extend⟩, ⟨0x1AE0, 0x1AEB, .every .extend⟩,
  ⟨0x1B00, 0x1B04, .every .extend⟩, ⟨0x1B05, 0x1B33, .every .letter⟩,
  ⟨0x1B34, 0x1B44, .every .extend⟩, ⟨0x1B45, 0x1B4C, .every .letter⟩,
  ⟨0x1B4E, 0x1B4F, .every .terminator⟩, ⟨0x1B50, 0x1B59, .every .numeric⟩,
  ⟨0x1B5A, 0x1B5B, .every .terminator⟩, ⟨0x1B5E, 0x1B5F, .every .terminator⟩,
  ⟨0x1B6B, 0x1B73, .every .extend⟩, ⟨0x1B7D, 0x1B7F, .every .terminator⟩,
  ⟨0x1B80, 0x1B82, .every .extend⟩, ⟨0x1B83, 0x1BA0, .every .letter⟩,
  ⟨0x1BA1, 0x1BAD, .every .extend⟩, ⟨0x1BAE, 0x1BAF, .every .letter⟩,
  ⟨0x1BB0, 0x1BB9, .every .numeric⟩, ⟨0x1BBA, 0x1BE5, .every .letter⟩,
  ⟨0x1BE6, 0x1BF3, .every .extend⟩, ⟨0x1C00, 0x1C23, .every .letter⟩,
  ⟨0x1C24, 0x1C37, .every .extend⟩, ⟨0x1C3B, 0x1C3C, .every .terminator⟩,
  ⟨0x1C40, 0x1C49, .every .numeric⟩, ⟨0x1C4D, 0x1C4F, .every .letter⟩,
  ⟨0x1C50, 0x1C59, .every .numeric⟩, ⟨0x1C5A, 0x1C7D, .every .letter⟩,
  ⟨0x1C7E, 0x1C7F, .every .terminator⟩, ⟨0x1C80, 0x1C88, .every .lower⟩,
  ⟨0x1C89, 0x1C89, .every .upper⟩, ⟨0x1C8A, 0x1C8A, .every .lower⟩,
  ⟨0x1C90, 0x1CBA, .every .letter⟩, ⟨0x1CBD, 0x1CBF, .every .letter⟩,
  ⟨0x1CD0, 0x1CD2, .every .extend⟩, ⟨0x1CD4, 0x1CE8, .every .extend⟩,
  ⟨0x1CE9, 0x1CEC, .every .letter⟩, ⟨0x1CED, 0x1CED, .every .extend⟩,
  ⟨0x1CEE, 0x1CF3, .every .letter⟩, ⟨0x1CF4, 0x1CF4, .every .extend⟩,
  ⟨0x1CF5, 0x1CF6, .every .letter⟩, ⟨0x1CF7, 0x1CF9, .every .extend⟩,
  ⟨0x1CFA, 0x1CFA, .every .letter⟩, ⟨0x1D00, 0x1DBF, .every .lower⟩,
  ⟨0x1DC0, 0x1DFF, .every .extend⟩, ⟨0x1E00, 0x1E94, .cased⟩, ⟨0x1E95, 0x1E9D, .every .lower⟩,
  ⟨0x1E9E, 0x1EFE, .cased⟩, ⟨0x1EFF, 0x1F07, .every .lower⟩, ⟨0x1F08, 0x1F0F, .every .upper⟩,
  ⟨0x1F10, 0x1F15, .every .lower⟩, ⟨0x1F18, 0x1F1D, .every .upper⟩,
  ⟨0x1F20, 0x1F27, .every .lower⟩, ⟨0x1F28, 0x1F2F, .every .upper⟩,
  ⟨0x1F30, 0x1F37, .every .lower⟩, ⟨0x1F38, 0x1F3F, .every .upper⟩,
  ⟨0x1F40, 0x1F45, .every .lower⟩, ⟨0x1F48, 0x1F4D, .every .upper⟩,
  ⟨0x1F50, 0x1F57, .every .lower⟩, ⟨0x1F59, 0x1F59, .every .upper⟩,
  ⟨0x1F5B, 0x1F5B, .every .upper⟩, ⟨0x1F5D, 0x1F5D, .every .upper⟩,
  ⟨0x1F5F, 0x1F5F, .every .upper⟩, ⟨0x1F60, 0x1F67, .every .lower⟩,
  ⟨0x1F68, 0x1F6F, .every .upper⟩, ⟨0x1F70, 0x1F7D, .every .lower⟩,
  ⟨0x1F80, 0x1F87, .every .lower⟩, ⟨0x1F88, 0x1F8F, .every .upper⟩,
  ⟨0x1F90, 0x1F97, .every .lower⟩, ⟨0x1F98, 0x1F9F, .every .upper⟩,
  ⟨0x1FA0, 0x1FA7, .every .lower⟩, ⟨0x1FA8, 0x1FAF, .every .upper⟩,
  ⟨0x1FB0, 0x1FB4, .every .lower⟩, ⟨0x1FB6, 0x1FB7, .every .lower⟩,
  ⟨0x1FB8, 0x1FBC, .every .upper⟩, ⟨0x1FBE, 0x1FBE, .every .lower⟩,
  ⟨0x1FC2, 0x1FC4, .every .lower⟩, ⟨0x1FC6, 0x1FC7, .every .lower⟩,
  ⟨0x1FC8, 0x1FCC, .every .upper⟩, ⟨0x1FD0, 0x1FD3, .every .lower⟩,
  ⟨0x1FD6, 0x1FD7, .every .lower⟩, ⟨0x1FD8, 0x1FDB, .every .upper⟩,
  ⟨0x1FE0, 0x1FE7, .every .lower⟩, ⟨0x1FE8, 0x1FEC, .every .upper⟩,
  ⟨0x1FF2, 0x1FF4, .every .lower⟩, ⟨0x1FF6, 0x1FF7, .every .lower⟩, ⟨0x1FF8, 0x1FFC, .every .upper⟩]

def classesFrom2000 : Array (Stretch StretchClass) := #[
  ⟨0x2000, 0x200A, .every .space⟩, ⟨0x200B, 0x200B, .every .format⟩,
  ⟨0x200C, 0x200D, .every .extend⟩, ⟨0x200E, 0x200F, .every .format⟩,
  ⟨0x2013, 0x2014, .every .continuation⟩, ⟨0x2018, 0x201F, .every .close⟩,
  ⟨0x2024, 0x2024, .every .point⟩, ⟨0x2028, 0x2029, .every .separator⟩,
  ⟨0x202A, 0x202E, .every .format⟩, ⟨0x202F, 0x202F, .every .space⟩,
  ⟨0x2039, 0x203A, .every .close⟩, ⟨0x203C, 0x203D, .every .terminator⟩,
  ⟨0x2045, 0x2046, .every .close⟩, ⟨0x2047, 0x2049, .every .terminator⟩,
  ⟨0x205F, 0x205F, .every .space⟩, ⟨0x2060, 0x2064, .every .format⟩,
  ⟨0x2066, 0x206F, .every .format⟩, ⟨0x2071, 0x2071, .every .lower⟩,
  ⟨0x207D, 0x207E, .every .close⟩, ⟨0x207F, 0x207F, .every .lower⟩,
  ⟨0x208D, 0x208E, .every .close⟩, ⟨0x2090, 0x209C, .every .lower⟩,
  ⟨0x20D0, 0x20F0, .every .extend⟩, ⟨0x2102, 0x2102, .every .upper⟩,
  ⟨0x2107, 0x2107, .every .upper⟩, ⟨0x210A, 0x210A, .every .lower⟩,
  ⟨0x210B, 0x210D, .every .upper⟩, ⟨0x210E, 0x210F, .every .lower⟩,
  ⟨0x2110, 0x2112, .every .upper⟩, ⟨0x2113, 0x2113, .every .lower⟩,
  ⟨0x2115, 0x2115, .every .upper⟩, ⟨0x2119, 0x211D, .every .upper⟩,
  ⟨0x2124, 0x2124, .every .upper⟩, ⟨0x2126, 0x2126, .every .upper⟩,
  ⟨0x2128, 0x2128, .every .upper⟩, ⟨0x212A, 0x212D, .every .upper⟩,
  ⟨0x212F, 0x212F, .every .lower⟩, ⟨0x2130, 0x2133, .every .upper⟩,
  ⟨0x2134, 0x2134, .every .lower⟩, ⟨0x2135, 0x2138, .every .letter⟩,
  ⟨0x2139, 0x2139, .every .lower⟩, ⟨0x213C, 0x213D, .every .lower⟩,
  ⟨0x213E, 0x213F, .every .upper⟩, ⟨0x2145, 0x2145, .every .upper⟩,
  ⟨0x2146, 0x2149, .every .lower⟩, ⟨0x214E, 0x214E, .every .lower⟩,
  ⟨0x2160, 0x216F, .every .upper⟩, ⟨0x2170, 0x217F, .every .lower⟩,
  ⟨0x2180, 0x2182, .every .letter⟩, ⟨0x2183, 0x2183, .every .upper⟩,
  ⟨0x2184, 0x2184, .every .lower⟩, ⟨0x2185, 0x2188, .every .letter⟩,
  ⟨0x2308, 0x230B, .every .close⟩, ⟨0x2329, 0x232A, .every .close⟩,
  ⟨0x24B6, 0x24CF, .every .upper⟩, ⟨0x24D0, 0x24E9, .every .lower⟩,
  ⟨0x275B, 0x2760, .every .close⟩, ⟨0x2768, 0x2775, .every .close⟩,
  ⟨0x27C5, 0x27C6, .every .close⟩, ⟨0x27E6, 0x27EF, .every .close⟩,
  ⟨0x2983, 0x2998, .every .close⟩, ⟨0x29D8, 0x29DB, .every .close⟩,
  ⟨0x29FC, 0x29FD, .every .close⟩, ⟨0x2C00, 0x2C2F, .every .upper⟩,
  ⟨0x2C30, 0x2C5F, .every .lower⟩, ⟨0x2C60, 0x2C60, .every .upper⟩,
  ⟨0x2C61, 0x2C61, .every .lower⟩, ⟨0x2C62, 0x2C64, .every .upper⟩,
  ⟨0x2C65, 0x2C66, .every .lower⟩, ⟨0x2C67, 0x2C6C, .cased⟩, ⟨0x2C6D, 0x2C70, .every .upper⟩,
  ⟨0x2C71, 0x2C71, .every .lower⟩, ⟨0x2C72, 0x2C72, .every .upper⟩,
  ⟨0x2C73, 0x2C74, .every .lower⟩, ⟨0x2C75, 0x2C75, .every .upper⟩,
  ⟨0x2C76, 0x2C7D, .every .lower⟩, ⟨0x2C7E, 0x2C80, .every .upper⟩,
  ⟨0x2C81, 0x2C81, .every .lower⟩, ⟨0x2C82, 0x2CE2, .cased⟩, ⟨0x2CE3, 0x2CE4, .every .lower⟩,
  ⟨0x2CEB, 0x2CEE, .cased⟩, ⟨0x2CEF, 0x2CF1, .every .extend⟩, ⟨0x2CF2, 0x2CF2, .every .upper⟩,
  ⟨0x2CF3, 0x2CF3, .every .lower⟩, ⟨0x2CF9, 0x2CFB, .every .terminator⟩,
  ⟨0x2D00, 0x2D25, .every .lower⟩, ⟨0x2D27, 0x2D27, .every .lower⟩,
  ⟨0x2D2D, 0x2D2D, .every .lower⟩, ⟨0x2D30, 0x2D67, .every .letter⟩,
  ⟨0x2D6F, 0x2D6F, .every .letter⟩, ⟨0x2D7F, 0x2D7F, .every .extend⟩,
  ⟨0x2D80, 0x2D96, .every .letter⟩, ⟨0x2DA0, 0x2DA6, .every .letter⟩,
  ⟨0x2DA8, 0x2DAE, .every .letter⟩, ⟨0x2DB0, 0x2DB6, .every .letter⟩,
  ⟨0x2DB8, 0x2DBE, .every .letter⟩, ⟨0x2DC0, 0x2DC6, .every .letter⟩,
  ⟨0x2DC8, 0x2DCE, .every .letter⟩, ⟨0x2DD0, 0x2DD6, .every .letter⟩,
  ⟨0x2DD8, 0x2DDE, .every .letter⟩, ⟨0x2DE0, 0x2DFF, .every .extend⟩,
  ⟨0x2E00, 0x2E0D, .every .close⟩, ⟨0x2E1C, 0x2E1D, .every .close⟩,
  ⟨0x2E20, 0x2E29, .every .close⟩, ⟨0x2E2E, 0x2E2E, .every .terminator⟩,
  ⟨0x2E2F, 0x2E2F, .every .letter⟩, ⟨0x2E3C, 0x2E3C, .every .terminator⟩,
  ⟨0x2E42, 0x2E42, .every .close⟩, ⟨0x2E53, 0x2E54, .every .terminator⟩,
  ⟨0x2E55, 0x2E5C, .every .close⟩, ⟨0x3000, 0x3000, .every .space⟩,
  ⟨0x3001, 0x3001, .every .continuation⟩, ⟨0x3002, 0x3002, .every .terminator⟩,
  ⟨0x3005, 0x3007, .every .letter⟩, ⟨0x3008, 0x3011, .every .close⟩,
  ⟨0x3014, 0x301B, .every .close⟩, ⟨0x301D, 0x301F, .every .close⟩,
  ⟨0x3021, 0x3029, .every .letter⟩, ⟨0x302A, 0x302F, .every .extend⟩,
  ⟨0x3031, 0x3035, .every .letter⟩, ⟨0x3038, 0x303C, .every .letter⟩,
  ⟨0x3041, 0x3096, .every .letter⟩, ⟨0x3099, 0x309A, .every .extend⟩,
  ⟨0x309D, 0x309F, .every .letter⟩, ⟨0x30A1, 0x30FA, .every .letter⟩,
  ⟨0x30FC, 0x30FF, .every .letter⟩, ⟨0x3105, 0x312F, .every .letter⟩,
  ⟨0x3131, 0x318E, .every .letter⟩, ⟨0x31A0, 0x31BF, .every .letter⟩,
  ⟨0x31F0, 0x31FF, .every .letter⟩, ⟨0x3400, 0x4DBF, .every .letter⟩,
  ⟨0x4E00, 0xA48C, .every .letter⟩, ⟨0xA4D0, 0xA4FD, .every .letter⟩,
  ⟨0xA4FF, 0xA4FF, .every .terminator⟩, ⟨0xA500, 0xA60C, .every .letter⟩,
  ⟨0xA60E, 0xA60F, .every .terminator⟩, ⟨0xA610, 0xA61F, .every .letter⟩,
  ⟨0xA620, 0xA629, .every .numeric⟩, ⟨0xA62A, 0xA62B, .every .letter⟩, ⟨0xA640, 0xA66D, .cased⟩,
  ⟨0xA66E, 0xA66E, .every .letter⟩, ⟨0xA66F, 0xA672, .every .extend⟩,
  ⟨0xA674, 0xA67D, .every .extend⟩, ⟨0xA67F, 0xA67F, .every .letter⟩, ⟨0xA680, 0xA69A, .cased⟩,
  ⟨0xA69B, 0xA69D, .every .lower⟩, ⟨0xA69E, 0xA69F, .every .extend⟩,
  ⟨0xA6A0, 0xA6EF, .every .letter⟩, ⟨0xA6F0, 0xA6F1, .every .extend⟩,
  ⟨0xA6F3, 0xA6F3, .every .terminator⟩, ⟨0xA6F7, 0xA6F7, .every .terminator⟩,
  ⟨0xA717, 0xA71F, .every .letter⟩, ⟨0xA722, 0xA72E, .cased⟩, ⟨0xA72F, 0xA731, .every .lower⟩,
  ⟨0xA732, 0xA76E, .cased⟩, ⟨0xA76F, 0xA778, .every .lower⟩, ⟨0xA779, 0xA77C, .cased⟩,
  ⟨0xA77D, 0xA77E, .every .upper⟩, ⟨0xA77F, 0xA77F, .every .lower⟩, ⟨0xA780, 0xA787, .cased⟩,
  ⟨0xA788, 0xA788, .every .letter⟩, ⟨0xA78B, 0xA78E, .cased⟩, ⟨0xA78F, 0xA78F, .every .letter⟩,
  ⟨0xA790, 0xA790, .every .upper⟩, ⟨0xA791, 0xA791, .every .lower⟩,
  ⟨0xA792, 0xA792, .every .upper⟩, ⟨0xA793, 0xA795, .every .lower⟩, ⟨0xA796, 0xA7A9, .cased⟩,
  ⟨0xA7AA, 0xA7AE, .every .upper⟩, ⟨0xA7AF, 0xA7AF, .every .lower⟩,
  ⟨0xA7B0, 0xA7B4, .every .upper⟩, ⟨0xA7B5, 0xA7B5, .every .lower⟩, ⟨0xA7B6, 0xA7C3, .cased⟩,
  ⟨0xA7C4, 0xA7C7, .every .upper⟩, ⟨0xA7C8, 0xA7C8, .every .lower⟩,
  ⟨0xA7C9, 0xA7C9, .every .upper⟩, ⟨0xA7CA, 0xA7CA, .every .lower⟩,
  ⟨0xA7CB, 0xA7CC, .every .upper⟩, ⟨0xA7CD, 0xA7CD, .every .lower⟩, ⟨0xA7CE, 0xA7DC, .cased⟩,
  ⟨0xA7F1, 0xA7F4, .every .lower⟩, ⟨0xA7F5, 0xA7F5, .every .upper⟩,
  ⟨0xA7F6, 0xA7F6, .every .lower⟩, ⟨0xA7F7, 0xA7F7, .every .letter⟩,
  ⟨0xA7F8, 0xA7FA, .every .lower⟩, ⟨0xA7FB, 0xA801, .every .letter⟩,
  ⟨0xA802, 0xA802, .every .extend⟩, ⟨0xA803, 0xA805, .every .letter⟩,
  ⟨0xA806, 0xA806, .every .extend⟩, ⟨0xA807, 0xA80A, .every .letter⟩,
  ⟨0xA80B, 0xA80B, .every .extend⟩, ⟨0xA80C, 0xA822, .every .letter⟩,
  ⟨0xA823, 0xA827, .every .extend⟩, ⟨0xA82C, 0xA82C, .every .extend⟩,
  ⟨0xA840, 0xA873, .every .letter⟩, ⟨0xA876, 0xA877, .every .terminator⟩,
  ⟨0xA880, 0xA881, .every .extend⟩, ⟨0xA882, 0xA8B3, .every .letter⟩,
  ⟨0xA8B4, 0xA8C5, .every .extend⟩, ⟨0xA8CE, 0xA8CF, .every .terminator⟩,
  ⟨0xA8D0, 0xA8D9, .every .numeric⟩, ⟨0xA8E0, 0xA8F1, .every .extend⟩,
  ⟨0xA8F2, 0xA8F7, .every .letter⟩, ⟨0xA8FB, 0xA8FB, .every .letter⟩,
  ⟨0xA8FD, 0xA8FE, .every .letter⟩, ⟨0xA8FF, 0xA8FF, .every .extend⟩,
  ⟨0xA900, 0xA909, .every .numeric⟩, ⟨0xA90A, 0xA925, .every .letter⟩,
  ⟨0xA926, 0xA92D, .every .extend⟩, ⟨0xA92F, 0xA92F, .every .terminator⟩,
  ⟨0xA930, 0xA946, .every .letter⟩, ⟨0xA947, 0xA953, .every .extend⟩,
  ⟨0xA960, 0xA97C, .every .letter⟩, ⟨0xA980, 0xA983, .every .extend⟩,
  ⟨0xA984, 0xA9B2, .every .letter⟩, ⟨0xA9B3, 0xA9C0, .every .extend⟩,
  ⟨0xA9C8, 0xA9C9, .every .terminator⟩, ⟨0xA9CF, 0xA9CF, .every .letter⟩,
  ⟨0xA9D0, 0xA9D9, .every .numeric⟩, ⟨0xA9E0, 0xA9E4, .every .letter⟩,
  ⟨0xA9E5, 0xA9E5, .every .extend⟩, ⟨0xA9E6, 0xA9EF, .every .letter⟩,
  ⟨0xA9F0, 0xA9F9, .every .numeric⟩, ⟨0xA9FA, 0xA9FE, .every .letter⟩,
  ⟨0xAA00, 0xAA28, .every .letter⟩, ⟨0xAA29, 0xAA36, .every .extend⟩,
  ⟨0xAA40, 0xAA42, .every .letter⟩, ⟨0xAA43, 0xAA43, .every .extend⟩,
  ⟨0xAA44, 0xAA4B, .every .letter⟩, ⟨0xAA4C, 0xAA4D, .every .extend⟩,
  ⟨0xAA50, 0xAA59, .every .numeric⟩, ⟨0xAA5D, 0xAA5F, .every .terminator⟩,
  ⟨0xAA60, 0xAA76, .every .letter⟩, ⟨0xAA7A, 0xAA7A, .every .letter⟩,
  ⟨0xAA7B, 0xAA7D, .every .extend⟩, ⟨0xAA7E, 0xAAAF, .every .letter⟩,
  ⟨0xAAB0, 0xAAB0, .every .extend⟩, ⟨0xAAB1, 0xAAB1, .every .letter⟩,
  ⟨0xAAB2, 0xAAB4, .every .extend⟩, ⟨0xAAB5, 0xAAB6, .every .letter⟩,
  ⟨0xAAB7, 0xAAB8, .every .extend⟩, ⟨0xAAB9, 0xAABD, .every .letter⟩,
  ⟨0xAABE, 0xAABF, .every .extend⟩, ⟨0xAAC0, 0xAAC0, .every .letter⟩,
  ⟨0xAAC1, 0xAAC1, .every .extend⟩, ⟨0xAAC2, 0xAAC2, .every .letter⟩,
  ⟨0xAADB, 0xAADD, .every .letter⟩, ⟨0xAAE0, 0xAAEA, .every .letter⟩,
  ⟨0xAAEB, 0xAAEF, .every .extend⟩, ⟨0xAAF0, 0xAAF1, .every .terminator⟩,
  ⟨0xAAF2, 0xAAF4, .every .letter⟩, ⟨0xAAF5, 0xAAF6, .every .extend⟩,
  ⟨0xAB01, 0xAB06, .every .letter⟩, ⟨0xAB09, 0xAB0E, .every .letter⟩,
  ⟨0xAB11, 0xAB16, .every .letter⟩, ⟨0xAB20, 0xAB26, .every .letter⟩,
  ⟨0xAB28, 0xAB2E, .every .letter⟩, ⟨0xAB30, 0xAB5A, .every .lower⟩,
  ⟨0xAB5C, 0xAB69, .every .lower⟩, ⟨0xAB70, 0xABBF, .every .lower⟩,
  ⟨0xABC0, 0xABE2, .every .letter⟩, ⟨0xABE3, 0xABEA, .every .extend⟩,
  ⟨0xABEB, 0xABEB, .every .terminator⟩, ⟨0xABEC, 0xABED, .every .extend⟩,
  ⟨0xABF0, 0xABF9, .every .numeric⟩, ⟨0xAC00, 0xD7A3, .every .letter⟩,
  ⟨0xD7B0, 0xD7C6, .every .letter⟩, ⟨0xD7CB, 0xD7FB, .every .letter⟩,
  ⟨0xF900, 0xFA6D, .every .letter⟩, ⟨0xFA70, 0xFAD9, .every .letter⟩,
  ⟨0xFB00, 0xFB06, .every .lower⟩, ⟨0xFB13, 0xFB17, .every .lower⟩,
  ⟨0xFB1D, 0xFB1D, .every .letter⟩, ⟨0xFB1E, 0xFB1E, .every .extend⟩,
  ⟨0xFB1F, 0xFB28, .every .letter⟩, ⟨0xFB2A, 0xFB36, .every .letter⟩,
  ⟨0xFB38, 0xFB3C, .every .letter⟩, ⟨0xFB3E, 0xFB3E, .every .letter⟩,
  ⟨0xFB40, 0xFB41, .every .letter⟩, ⟨0xFB43, 0xFB44, .every .letter⟩,
  ⟨0xFB46, 0xFBB1, .every .letter⟩, ⟨0xFBD3, 0xFD3D, .every .letter⟩,
  ⟨0xFD3E, 0xFD3F, .every .close⟩, ⟨0xFD50, 0xFD8F, .every .letter⟩,
  ⟨0xFD92, 0xFDC7, .every .letter⟩, ⟨0xFDF0, 0xFDFB, .every .letter⟩,
  ⟨0xFE00, 0xFE0F, .every .extend⟩, ⟨0xFE10, 0xFE11, .every .continuation⟩,
  ⟨0xFE12, 0xFE12, .every .terminator⟩, ⟨0xFE13, 0xFE14, .every .continuation⟩,
  ⟨0xFE15, 0xFE16, .every .terminator⟩, ⟨0xFE17, 0xFE18, .every .close⟩,
  ⟨0xFE20, 0xFE2F, .every .extend⟩, ⟨0xFE31, 0xFE32, .every .continuation⟩,
  ⟨0xFE35, 0xFE44, .every .close⟩, ⟨0xFE47, 0xFE48, .every .close⟩,
  ⟨0xFE50, 0xFE51, .every .continuation⟩, ⟨0xFE52, 0xFE52, .every .point⟩,
  ⟨0xFE54, 0xFE55, .every .continuation⟩, ⟨0xFE56, 0xFE57, .every .terminator⟩,
  ⟨0xFE58, 0xFE58, .every .continuation⟩, ⟨0xFE59, 0xFE5E, .every .close⟩,
  ⟨0xFE63, 0xFE63, .every .continuation⟩, ⟨0xFE70, 0xFE74, .every .letter⟩,
  ⟨0xFE76, 0xFEFC, .every .letter⟩, ⟨0xFEFF, 0xFEFF, .every .format⟩,
  ⟨0xFF01, 0xFF01, .every .terminator⟩, ⟨0xFF08, 0xFF09, .every .close⟩,
  ⟨0xFF0C, 0xFF0D, .every .continuation⟩, ⟨0xFF0E, 0xFF0E, .every .point⟩,
  ⟨0xFF10, 0xFF19, .every .numeric⟩, ⟨0xFF1A, 0xFF1B, .every .continuation⟩,
  ⟨0xFF1F, 0xFF1F, .every .terminator⟩, ⟨0xFF21, 0xFF3A, .every .upper⟩,
  ⟨0xFF3B, 0xFF3B, .every .close⟩, ⟨0xFF3D, 0xFF3D, .every .close⟩,
  ⟨0xFF41, 0xFF5A, .every .lower⟩, ⟨0xFF5B, 0xFF5B, .every .close⟩,
  ⟨0xFF5D, 0xFF5D, .every .close⟩, ⟨0xFF5F, 0xFF60, .every .close⟩,
  ⟨0xFF61, 0xFF61, .every .terminator⟩, ⟨0xFF62, 0xFF63, .every .close⟩,
  ⟨0xFF64, 0xFF64, .every .continuation⟩, ⟨0xFF66, 0xFF9D, .every .letter⟩,
  ⟨0xFF9E, 0xFF9F, .every .extend⟩, ⟨0xFFA0, 0xFFBE, .every .letter⟩,
  ⟨0xFFC2, 0xFFC7, .every .letter⟩, ⟨0xFFCA, 0xFFCF, .every .letter⟩,
  ⟨0xFFD2, 0xFFD7, .every .letter⟩, ⟨0xFFDA, 0xFFDC, .every .letter⟩,
  ⟨0xFFF9, 0xFFFB, .every .format⟩]

def classesFrom10000 : Array (Stretch StretchClass) := #[
  ⟨0x10000, 0x1000B, .every .letter⟩, ⟨0x1000D, 0x10026, .every .letter⟩,
  ⟨0x10028, 0x1003A, .every .letter⟩, ⟨0x1003C, 0x1003D, .every .letter⟩,
  ⟨0x1003F, 0x1004D, .every .letter⟩, ⟨0x10050, 0x1005D, .every .letter⟩,
  ⟨0x10080, 0x100FA, .every .letter⟩, ⟨0x10140, 0x10174, .every .letter⟩,
  ⟨0x101FD, 0x101FD, .every .extend⟩, ⟨0x10280, 0x1029C, .every .letter⟩,
  ⟨0x102A0, 0x102D0, .every .letter⟩, ⟨0x102E0, 0x102E0, .every .extend⟩,
  ⟨0x10300, 0x1031F, .every .letter⟩, ⟨0x1032D, 0x1034A, .every .letter⟩,
  ⟨0x10350, 0x10375, .every .letter⟩, ⟨0x10376, 0x1037A, .every .extend⟩,
  ⟨0x10380, 0x1039D, .every .letter⟩, ⟨0x103A0, 0x103C3, .every .letter⟩,
  ⟨0x103C8, 0x103CF, .every .letter⟩, ⟨0x103D1, 0x103D5, .every .letter⟩,
  ⟨0x10400, 0x10427, .every .upper⟩, ⟨0x10428, 0x1044F, .every .lower⟩,
  ⟨0x10450, 0x1049D, .every .letter⟩, ⟨0x104A0, 0x104A9, .every .numeric⟩,
  ⟨0x104B0, 0x104D3, .every .upper⟩, ⟨0x104D8, 0x104FB, .every .lower⟩,
  ⟨0x10500, 0x10527, .every .letter⟩, ⟨0x10530, 0x10563, .every .letter⟩,
  ⟨0x10570, 0x1057A, .every .upper⟩, ⟨0x1057C, 0x1058A, .every .upper⟩,
  ⟨0x1058C, 0x10592, .every .upper⟩, ⟨0x10594, 0x10595, .every .upper⟩,
  ⟨0x10597, 0x105A1, .every .lower⟩, ⟨0x105A3, 0x105B1, .every .lower⟩,
  ⟨0x105B3, 0x105B9, .every .lower⟩, ⟨0x105BB, 0x105BC, .every .lower⟩,
  ⟨0x105C0, 0x105F3, .every .letter⟩, ⟨0x10600, 0x10736, .every .letter⟩,
  ⟨0x10740, 0x10755, .every .letter⟩, ⟨0x10760, 0x10767, .every .letter⟩,
  ⟨0x10780, 0x10780, .every .lower⟩, ⟨0x10781, 0x10782, .every .letter⟩,
  ⟨0x10783, 0x10785, .every .lower⟩, ⟨0x10787, 0x107B0, .every .lower⟩,
  ⟨0x107B2, 0x107BA, .every .lower⟩, ⟨0x10800, 0x10805, .every .letter⟩,
  ⟨0x10808, 0x10808, .every .letter⟩, ⟨0x1080A, 0x10835, .every .letter⟩,
  ⟨0x10837, 0x10838, .every .letter⟩, ⟨0x1083C, 0x1083C, .every .letter⟩,
  ⟨0x1083F, 0x10855, .every .letter⟩, ⟨0x10860, 0x10876, .every .letter⟩,
  ⟨0x10880, 0x1089E, .every .letter⟩, ⟨0x108E0, 0x108F2, .every .letter⟩,
  ⟨0x108F4, 0x108F5, .every .letter⟩, ⟨0x10900, 0x10915, .every .letter⟩,
  ⟨0x10920, 0x10939, .every .letter⟩, ⟨0x10940, 0x10959, .every .letter⟩,
  ⟨0x10980, 0x109B7, .every .letter⟩, ⟨0x109BE, 0x109BF, .every .letter⟩,
  ⟨0x10A00, 0x10A00, .every .letter⟩, ⟨0x10A01, 0x10A03, .every .extend⟩,
  ⟨0x10A05, 0x10A06, .every .extend⟩, ⟨0x10A0C, 0x10A0F, .every .extend⟩,
  ⟨0x10A10, 0x10A13, .every .letter⟩, ⟨0x10A15, 0x10A17, .every .letter⟩,
  ⟨0x10A19, 0x10A35, .every .letter⟩, ⟨0x10A38, 0x10A3A, .every .extend⟩,
  ⟨0x10A3F, 0x10A3F, .every .extend⟩, ⟨0x10A56, 0x10A57, .every .terminator⟩,
  ⟨0x10A60, 0x10A7C, .every .letter⟩, ⟨0x10A80, 0x10A9C, .every .letter⟩,
  ⟨0x10AC0, 0x10AC7, .every .letter⟩, ⟨0x10AC9, 0x10AE4, .every .letter⟩,
  ⟨0x10AE5, 0x10AE6, .every .extend⟩, ⟨0x10B00, 0x10B35, .every .letter⟩,
  ⟨0x10B40, 0x10B55, .every .letter⟩, ⟨0x10B60, 0x10B72, .every .letter⟩,
  ⟨0x10B80, 0x10B91, .every .letter⟩, ⟨0x10C00, 0x10C48, .every .letter⟩,
  ⟨0x10C80, 0x10CB2, .every .upper⟩, ⟨0x10CC0, 0x10CF2, .every .lower⟩,
  ⟨0x10D00, 0x10D23, .every .letter⟩, ⟨0x10D24, 0x10D27, .every .extend⟩,
  ⟨0x10D30, 0x10D39, .every .numeric⟩, ⟨0x10D40, 0x10D49, .every .numeric⟩,
  ⟨0x10D4A, 0x10D4F, .every .letter⟩, ⟨0x10D50, 0x10D65, .every .upper⟩,
  ⟨0x10D69, 0x10D6D, .every .extend⟩, ⟨0x10D6F, 0x10D6F, .every .letter⟩,
  ⟨0x10D70, 0x10D85, .every .lower⟩, ⟨0x10E80, 0x10EA9, .every .letter⟩,
  ⟨0x10EAB, 0x10EAC, .every .extend⟩, ⟨0x10EB0, 0x10EB1, .every .letter⟩,
  ⟨0x10EC2, 0x10EC7, .every .letter⟩, ⟨0x10EFA, 0x10EFF, .every .extend⟩,
  ⟨0x10F00, 0x10F1C, .every .letter⟩, ⟨0x10F27, 0x10F27, .every .letter⟩,
  ⟨0x10F30, 0x10F45, .every .letter⟩, ⟨0x10F46, 0x10F50, .every .extend⟩,
  ⟨0x10F55, 0x10F59, .every .terminator⟩, ⟨0x10F70, 0x10F81, .every .letter⟩,
  ⟨0x10F82, 0x10F85, .every .extend⟩, ⟨0x10F86, 0x10F89, .every .terminator⟩,
  ⟨0x10FB0, 0x10FC4, .every .letter⟩, ⟨0x10FE0, 0x10FF6, .every .letter⟩,
  ⟨0x11000, 0x11002, .every .extend⟩, ⟨0x11003, 0x11037, .every .letter⟩,
  ⟨0x11038, 0x11046, .every .extend⟩, ⟨0x11047, 0x11048, .every .terminator⟩,
  ⟨0x11066, 0x1106F, .every .numeric⟩, ⟨0x11070, 0x11070, .every .extend⟩,
  ⟨0x11071, 0x11072, .every .letter⟩, ⟨0x11073, 0x11074, .every .extend⟩,
  ⟨0x11075, 0x11075, .every .letter⟩, ⟨0x1107F, 0x11082, .every .extend⟩,
  ⟨0x11083, 0x110AF, .every .letter⟩, ⟨0x110B0, 0x110BA, .every .extend⟩,
  ⟨0x110BD, 0x110BD, .every .numeric⟩, ⟨0x110BE, 0x110C1, .every .terminator⟩,
  ⟨0x110C2, 0x110C2, .every .extend⟩, ⟨0x110CD, 0x110CD, .every .numeric⟩,
  ⟨0x110D0, 0x110E8, .every .letter⟩, ⟨0x110F0, 0x110F9, .every .numeric⟩,
  ⟨0x11100, 0x11102, .every .extend⟩, ⟨0x11103, 0x11126, .every .letter⟩,
  ⟨0x11127, 0x11134, .every .extend⟩, ⟨0x11136, 0x1113F, .every .numeric⟩,
  ⟨0x11141, 0x11143, .every .terminator⟩, ⟨0x11144, 0x11144, .every .letter⟩,
  ⟨0x11145, 0x11146, .every .extend⟩, ⟨0x11147, 0x11147, .every .letter⟩,
  ⟨0x11150, 0x11172, .every .letter⟩, ⟨0x11173, 0x11173, .every .extend⟩,
  ⟨0x11176, 0x11176, .every .letter⟩, ⟨0x11180, 0x11182, .every .extend⟩,
  ⟨0x11183, 0x111B2, .every .letter⟩, ⟨0x111B3, 0x111C0, .every .extend⟩,
  ⟨0x111C1, 0x111C4, .every .letter⟩, ⟨0x111C5, 0x111C6, .every .terminator⟩,
  ⟨0x111C9, 0x111CC, .every .extend⟩, ⟨0x111CD, 0x111CD, .every .terminator⟩,
  ⟨0x111CE, 0x111CF, .every .extend⟩, ⟨0x111D0, 0x111D9, .every .numeric⟩,
  ⟨0x111DA, 0x111DA, .every .letter⟩, ⟨0x111DC, 0x111DC, .every .letter⟩,
  ⟨0x111DE, 0x111DF, .every .terminator⟩, ⟨0x11200, 0x11211, .every .letter⟩,
  ⟨0x11213, 0x1122B, .every .letter⟩, ⟨0x1122C, 0x11237, .every .extend⟩,
  ⟨0x11238, 0x11239, .every .terminator⟩, ⟨0x1123B, 0x1123C, .every .terminator⟩,
  ⟨0x1123E, 0x1123E, .every .extend⟩, ⟨0x1123F, 0x11240, .every .letter⟩,
  ⟨0x11241, 0x11241, .every .extend⟩, ⟨0x11280, 0x11286, .every .letter⟩,
  ⟨0x11288, 0x11288, .every .letter⟩, ⟨0x1128A, 0x1128D, .every .letter⟩,
  ⟨0x1128F, 0x1129D, .every .letter⟩, ⟨0x1129F, 0x112A8, .every .letter⟩,
  ⟨0x112A9, 0x112A9, .every .terminator⟩, ⟨0x112B0, 0x112DE, .every .letter⟩,
  ⟨0x112DF, 0x112EA, .every .extend⟩, ⟨0x112F0, 0x112F9, .every .numeric⟩,
  ⟨0x11300, 0x11303, .every .extend⟩, ⟨0x11305, 0x1130C, .every .letter⟩,
  ⟨0x1130F, 0x11310, .every .letter⟩, ⟨0x11313, 0x11328, .every .letter⟩,
  ⟨0x1132A, 0x11330, .every .letter⟩, ⟨0x11332, 0x11333, .every .letter⟩,
  ⟨0x11335, 0x11339, .every .letter⟩, ⟨0x1133B, 0x1133C, .every .extend⟩,
  ⟨0x1133D, 0x1133D, .every .letter⟩, ⟨0x1133E, 0x11344, .every .extend⟩,
  ⟨0x11347, 0x11348, .every .extend⟩, ⟨0x1134B, 0x1134D, .every .extend⟩,
  ⟨0x11350, 0x11350, .every .letter⟩, ⟨0x11357, 0x11357, .every .extend⟩,
  ⟨0x1135D, 0x11361, .every .letter⟩, ⟨0x11362, 0x11363, .every .extend⟩,
  ⟨0x11366, 0x1136C, .every .extend⟩, ⟨0x11370, 0x11374, .every .extend⟩,
  ⟨0x11380, 0x11389, .every .letter⟩, ⟨0x1138B, 0x1138B, .every .letter⟩,
  ⟨0x1138E, 0x1138E, .every .letter⟩, ⟨0x11390, 0x113B5, .every .letter⟩,
  ⟨0x113B7, 0x113B7, .every .letter⟩, ⟨0x113B8, 0x113C0, .every .extend⟩,
  ⟨0x113C2, 0x113C2, .every .extend⟩, ⟨0x113C5, 0x113C5, .every .extend⟩,
  ⟨0x113C7, 0x113CA, .every .extend⟩, ⟨0x113CC, 0x113D0, .every .extend⟩,
  ⟨0x113D1, 0x113D1, .every .letter⟩, ⟨0x113D2, 0x113D2, .every .extend⟩,
  ⟨0x113D3, 0x113D3, .every .letter⟩, ⟨0x113D4, 0x113D5, .every .terminator⟩,
  ⟨0x113E1, 0x113E2, .every .extend⟩, ⟨0x11400, 0x11434, .every .letter⟩,
  ⟨0x11435, 0x11446, .every .extend⟩, ⟨0x11447, 0x1144A, .every .letter⟩,
  ⟨0x1144B, 0x1144C, .every .terminator⟩, ⟨0x11450, 0x11459, .every .numeric⟩,
  ⟨0x1145E, 0x1145E, .every .extend⟩, ⟨0x1145F, 0x11461, .every .letter⟩,
  ⟨0x11480, 0x114AF, .every .letter⟩, ⟨0x114B0, 0x114C3, .every .extend⟩,
  ⟨0x114C4, 0x114C5, .every .letter⟩, ⟨0x114C7, 0x114C7, .every .letter⟩,
  ⟨0x114D0, 0x114D9, .every .numeric⟩, ⟨0x11580, 0x115AE, .every .letter⟩,
  ⟨0x115AF, 0x115B5, .every .extend⟩, ⟨0x115B8, 0x115C0, .every .extend⟩,
  ⟨0x115C2, 0x115C3, .every .terminator⟩, ⟨0x115C9, 0x115D7, .every .terminator⟩,
  ⟨0x115D8, 0x115DB, .every .letter⟩, ⟨0x115DC, 0x115DD, .every .extend⟩,
  ⟨0x11600, 0x1162F, .every .letter⟩, ⟨0x11630, 0x11640, .every .extend⟩,
  ⟨0x11641, 0x11642, .every .terminator⟩, ⟨0x11644, 0x11644, .every .letter⟩,
  ⟨0x11650, 0x11659, .every .numeric⟩, ⟨0x11680, 0x116AA, .every .letter⟩,
  ⟨0x116AB, 0x116B7, .every .extend⟩, ⟨0x116B8, 0x116B8, .every .letter⟩,
  ⟨0x116C0, 0x116C9, .every .numeric⟩, ⟨0x116D0, 0x116E3, .every .numeric⟩,
  ⟨0x11700, 0x1171A, .every .letter⟩, ⟨0x1171D, 0x1172B, .every .extend⟩,
  ⟨0x11730, 0x11739, .every .numeric⟩, ⟨0x1173C, 0x1173E, .every .terminator⟩,
  ⟨0x11740, 0x11746, .every .letter⟩, ⟨0x11800, 0x1182B, .every .letter⟩,
  ⟨0x1182C, 0x1183A, .every .extend⟩, ⟨0x118A0, 0x118BF, .every .upper⟩,
  ⟨0x118C0, 0x118DF, .every .lower⟩, ⟨0x118E0, 0x118E9, .every .numeric⟩,
  ⟨0x118FF, 0x11906, .every .letter⟩, ⟨0x11909, 0x11909, .every .letter⟩,
  ⟨0x1190C, 0x11913, .every .letter⟩, ⟨0x11915, 0x11916, .every .letter⟩,
  ⟨0x11918, 0x1192F, .every .letter⟩, ⟨0x11930, 0x11935, .every .extend⟩,
  ⟨0x11937, 0x11938, .every .extend⟩, ⟨0x1193B, 0x1193E, .every .extend⟩,
  ⟨0x1193F, 0x1193F, .every .letter⟩, ⟨0x11940, 0x11940, .every .extend⟩,
  ⟨0x11941, 0x11941, .every .letter⟩, ⟨0x11942, 0x11943, .every .extend⟩,
  ⟨0x11944, 0x11944, .every .terminator⟩, ⟨0x11946, 0x11946, .every .terminator⟩,
  ⟨0x11950, 0x11959, .every .numeric⟩, ⟨0x119A0, 0x119A7, .every .letter⟩,
  ⟨0x119AA, 0x119D0, .every .letter⟩, ⟨0x119D1, 0x119D7, .every .extend⟩,
  ⟨0x119DA, 0x119E0, .every .extend⟩, ⟨0x119E1, 0x119E1, .every .letter⟩,
  ⟨0x119E3, 0x119E3, .every .letter⟩, ⟨0x119E4, 0x119E4, .every .extend⟩,
  ⟨0x11A00, 0x11A00, .every .letter⟩, ⟨0x11A01, 0x11A0A, .every .extend⟩,
  ⟨0x11A0B, 0x11A32, .every .letter⟩, ⟨0x11A33, 0x11A39, .every .extend⟩,
  ⟨0x11A3A, 0x11A3A, .every .letter⟩, ⟨0x11A3B, 0x11A3E, .every .extend⟩,
  ⟨0x11A42, 0x11A43, .every .terminator⟩, ⟨0x11A47, 0x11A47, .every .extend⟩,
  ⟨0x11A50, 0x11A50, .every .letter⟩, ⟨0x11A51, 0x11A5B, .every .extend⟩,
  ⟨0x11A5C, 0x11A89, .every .letter⟩, ⟨0x11A8A, 0x11A99, .every .extend⟩,
  ⟨0x11A9B, 0x11A9C, .every .terminator⟩, ⟨0x11A9D, 0x11A9D, .every .letter⟩,
  ⟨0x11AB0, 0x11AF8, .every .letter⟩, ⟨0x11B60, 0x11B67, .every .extend⟩,
  ⟨0x11BC0, 0x11BE0, .every .letter⟩, ⟨0x11BF0, 0x11BF9, .every .numeric⟩,
  ⟨0x11C00, 0x11C08, .every .letter⟩, ⟨0x11C0A, 0x11C2E, .every .letter⟩,
  ⟨0x11C2F, 0x11C36, .every .extend⟩, ⟨0x11C38, 0x11C3F, .every .extend⟩,
  ⟨0x11C40, 0x11C40, .every .letter⟩, ⟨0x11C41, 0x11C42, .every .terminator⟩,
  ⟨0x11C50, 0x11C59, .every .numeric⟩, ⟨0x11C72, 0x11C8F, .every .letter⟩,
  ⟨0x11C92, 0x11CA7, .every .extend⟩, ⟨0x11CA9, 0x11CB6, .every .extend⟩,
  ⟨0x11D00, 0x11D06, .every .letter⟩, ⟨0x11D08, 0x11D09, .every .letter⟩,
  ⟨0x11D0B, 0x11D30, .every .letter⟩, ⟨0x11D31, 0x11D36, .every .extend⟩,
  ⟨0x11D3A, 0x11D3A, .every .extend⟩, ⟨0x11D3C, 0x11D3D, .every .extend⟩,
  ⟨0x11D3F, 0x11D45, .every .extend⟩, ⟨0x11D46, 0x11D46, .every .letter⟩,
  ⟨0x11D47, 0x11D47, .every .extend⟩, ⟨0x11D50, 0x11D59, .every .numeric⟩,
  ⟨0x11D60, 0x11D65, .every .letter⟩, ⟨0x11D67, 0x11D68, .every .letter⟩,
  ⟨0x11D6A, 0x11D89, .every .letter⟩, ⟨0x11D8A, 0x11D8E, .every .extend⟩,
  ⟨0x11D90, 0x11D91, .every .extend⟩, ⟨0x11D93, 0x11D97, .every .extend⟩,
  ⟨0x11D98, 0x11D98, .every .letter⟩, ⟨0x11DA0, 0x11DA9, .every .numeric⟩,
  ⟨0x11DB0, 0x11DDB, .every .letter⟩, ⟨0x11DE0, 0x11DE9, .every .numeric⟩,
  ⟨0x11EE0, 0x11EF2, .every .letter⟩, ⟨0x11EF3, 0x11EF6, .every .extend⟩,
  ⟨0x11EF7, 0x11EF8, .every .terminator⟩, ⟨0x11F00, 0x11F01, .every .extend⟩,
  ⟨0x11F02, 0x11F02, .every .letter⟩, ⟨0x11F03, 0x11F03, .every .extend⟩,
  ⟨0x11F04, 0x11F10, .every .letter⟩, ⟨0x11F12, 0x11F33, .every .letter⟩,
  ⟨0x11F34, 0x11F3A, .every .extend⟩, ⟨0x11F3E, 0x11F42, .every .extend⟩,
  ⟨0x11F43, 0x11F44, .every .terminator⟩, ⟨0x11F50, 0x11F59, .every .numeric⟩,
  ⟨0x11F5A, 0x11F5A, .every .extend⟩, ⟨0x11FB0, 0x11FB0, .every .letter⟩,
  ⟨0x12000, 0x12399, .every .letter⟩, ⟨0x12400, 0x1246E, .every .letter⟩,
  ⟨0x12480, 0x12543, .every .letter⟩, ⟨0x12F90, 0x12FF0, .every .letter⟩,
  ⟨0x13000, 0x1342F, .every .letter⟩, ⟨0x13430, 0x1343F, .every .format⟩,
  ⟨0x13440, 0x13440, .every .extend⟩, ⟨0x13441, 0x13446, .every .letter⟩,
  ⟨0x13447, 0x13455, .every .extend⟩, ⟨0x13460, 0x143FA, .every .letter⟩,
  ⟨0x14400, 0x14646, .every .letter⟩, ⟨0x16100, 0x1611D, .every .letter⟩,
  ⟨0x1611E, 0x1612F, .every .extend⟩, ⟨0x16130, 0x16139, .every .numeric⟩,
  ⟨0x16800, 0x16A38, .every .letter⟩, ⟨0x16A40, 0x16A5E, .every .letter⟩,
  ⟨0x16A60, 0x16A69, .every .numeric⟩, ⟨0x16A6E, 0x16A6F, .every .terminator⟩,
  ⟨0x16A70, 0x16ABE, .every .letter⟩, ⟨0x16AC0, 0x16AC9, .every .numeric⟩,
  ⟨0x16AD0, 0x16AED, .every .letter⟩, ⟨0x16AF0, 0x16AF4, .every .extend⟩,
  ⟨0x16AF5, 0x16AF5, .every .terminator⟩, ⟨0x16B00, 0x16B2F, .every .letter⟩,
  ⟨0x16B30, 0x16B36, .every .extend⟩, ⟨0x16B37, 0x16B38, .every .terminator⟩,
  ⟨0x16B40, 0x16B43, .every .letter⟩, ⟨0x16B44, 0x16B44, .every .terminator⟩,
  ⟨0x16B50, 0x16B59, .every .numeric⟩, ⟨0x16B63, 0x16B77, .every .letter⟩,
  ⟨0x16B7D, 0x16B8F, .every .letter⟩, ⟨0x16D40, 0x16D6C, .every .letter⟩,
  ⟨0x16D6E, 0x16D6F, .every .terminator⟩, ⟨0x16D70, 0x16D79, .every .numeric⟩,
  ⟨0x16E40, 0x16E5F, .every .upper⟩, ⟨0x16E60, 0x16E7F, .every .lower⟩,
  ⟨0x16E98, 0x16E98, .every .terminator⟩, ⟨0x16EA0, 0x16EB8, .every .upper⟩,
  ⟨0x16EBB, 0x16ED3, .every .lower⟩, ⟨0x16F00, 0x16F4A, .every .letter⟩,
  ⟨0x16F4F, 0x16F4F, .every .extend⟩, ⟨0x16F50, 0x16F50, .every .letter⟩,
  ⟨0x16F51, 0x16F87, .every .extend⟩, ⟨0x16F8F, 0x16F92, .every .extend⟩,
  ⟨0x16F93, 0x16F9F, .every .letter⟩, ⟨0x16FE0, 0x16FE1, .every .letter⟩,
  ⟨0x16FE3, 0x16FE3, .every .letter⟩, ⟨0x16FE4, 0x16FE4, .every .extend⟩,
  ⟨0x16FF0, 0x16FF1, .every .extend⟩, ⟨0x16FF2, 0x16FF6, .every .letter⟩,
  ⟨0x17000, 0x18CD5, .every .letter⟩, ⟨0x18CFF, 0x18D1E, .every .letter⟩,
  ⟨0x18D80, 0x18DF2, .every .letter⟩, ⟨0x1AFF0, 0x1AFF3, .every .letter⟩,
  ⟨0x1AFF5, 0x1AFFB, .every .letter⟩, ⟨0x1AFFD, 0x1AFFE, .every .letter⟩,
  ⟨0x1B000, 0x1B122, .every .letter⟩, ⟨0x1B132, 0x1B132, .every .letter⟩,
  ⟨0x1B150, 0x1B152, .every .letter⟩, ⟨0x1B155, 0x1B155, .every .letter⟩,
  ⟨0x1B164, 0x1B167, .every .letter⟩, ⟨0x1B170, 0x1B2FB, .every .letter⟩,
  ⟨0x1BC00, 0x1BC6A, .every .letter⟩, ⟨0x1BC70, 0x1BC7C, .every .letter⟩,
  ⟨0x1BC80, 0x1BC88, .every .letter⟩, ⟨0x1BC90, 0x1BC99, .every .letter⟩,
  ⟨0x1BC9D, 0x1BC9E, .every .extend⟩, ⟨0x1BC9F, 0x1BC9F, .every .terminator⟩,
  ⟨0x1BCA0, 0x1BCA3, .every .format⟩, ⟨0x1CCF0, 0x1CCF9, .every .numeric⟩,
  ⟨0x1CF00, 0x1CF2D, .every .extend⟩, ⟨0x1CF30, 0x1CF46, .every .extend⟩]

def classesFrom1D000 : Array (Stretch StretchClass) := #[
  ⟨0x1D165, 0x1D169, .every .extend⟩, ⟨0x1D16D, 0x1D172, .every .extend⟩,
  ⟨0x1D173, 0x1D17A, .every .format⟩, ⟨0x1D17B, 0x1D182, .every .extend⟩,
  ⟨0x1D185, 0x1D18B, .every .extend⟩, ⟨0x1D1AA, 0x1D1AD, .every .extend⟩,
  ⟨0x1D242, 0x1D244, .every .extend⟩, ⟨0x1D400, 0x1D419, .every .upper⟩,
  ⟨0x1D41A, 0x1D433, .every .lower⟩, ⟨0x1D434, 0x1D44D, .every .upper⟩,
  ⟨0x1D44E, 0x1D454, .every .lower⟩, ⟨0x1D456, 0x1D467, .every .lower⟩,
  ⟨0x1D468, 0x1D481, .every .upper⟩, ⟨0x1D482, 0x1D49B, .every .lower⟩,
  ⟨0x1D49C, 0x1D49C, .every .upper⟩, ⟨0x1D49E, 0x1D49F, .every .upper⟩,
  ⟨0x1D4A2, 0x1D4A2, .every .upper⟩, ⟨0x1D4A5, 0x1D4A6, .every .upper⟩,
  ⟨0x1D4A9, 0x1D4AC, .every .upper⟩, ⟨0x1D4AE, 0x1D4B5, .every .upper⟩,
  ⟨0x1D4B6, 0x1D4B9, .every .lower⟩, ⟨0x1D4BB, 0x1D4BB, .every .lower⟩,
  ⟨0x1D4BD, 0x1D4C3, .every .lower⟩, ⟨0x1D4C5, 0x1D4CF, .every .lower⟩,
  ⟨0x1D4D0, 0x1D4E9, .every .upper⟩, ⟨0x1D4EA, 0x1D503, .every .lower⟩,
  ⟨0x1D504, 0x1D505, .every .upper⟩, ⟨0x1D507, 0x1D50A, .every .upper⟩,
  ⟨0x1D50D, 0x1D514, .every .upper⟩, ⟨0x1D516, 0x1D51C, .every .upper⟩,
  ⟨0x1D51E, 0x1D537, .every .lower⟩, ⟨0x1D538, 0x1D539, .every .upper⟩,
  ⟨0x1D53B, 0x1D53E, .every .upper⟩, ⟨0x1D540, 0x1D544, .every .upper⟩,
  ⟨0x1D546, 0x1D546, .every .upper⟩, ⟨0x1D54A, 0x1D550, .every .upper⟩,
  ⟨0x1D552, 0x1D56B, .every .lower⟩, ⟨0x1D56C, 0x1D585, .every .upper⟩,
  ⟨0x1D586, 0x1D59F, .every .lower⟩, ⟨0x1D5A0, 0x1D5B9, .every .upper⟩,
  ⟨0x1D5BA, 0x1D5D3, .every .lower⟩, ⟨0x1D5D4, 0x1D5ED, .every .upper⟩,
  ⟨0x1D5EE, 0x1D607, .every .lower⟩, ⟨0x1D608, 0x1D621, .every .upper⟩,
  ⟨0x1D622, 0x1D63B, .every .lower⟩, ⟨0x1D63C, 0x1D655, .every .upper⟩,
  ⟨0x1D656, 0x1D66F, .every .lower⟩, ⟨0x1D670, 0x1D689, .every .upper⟩,
  ⟨0x1D68A, 0x1D6A5, .every .lower⟩, ⟨0x1D6A8, 0x1D6C0, .every .upper⟩,
  ⟨0x1D6C2, 0x1D6DA, .every .lower⟩, ⟨0x1D6DC, 0x1D6E1, .every .lower⟩,
  ⟨0x1D6E2, 0x1D6FA, .every .upper⟩, ⟨0x1D6FC, 0x1D714, .every .lower⟩,
  ⟨0x1D716, 0x1D71B, .every .lower⟩, ⟨0x1D71C, 0x1D734, .every .upper⟩,
  ⟨0x1D736, 0x1D74E, .every .lower⟩, ⟨0x1D750, 0x1D755, .every .lower⟩,
  ⟨0x1D756, 0x1D76E, .every .upper⟩, ⟨0x1D770, 0x1D788, .every .lower⟩,
  ⟨0x1D78A, 0x1D78F, .every .lower⟩, ⟨0x1D790, 0x1D7A8, .every .upper⟩,
  ⟨0x1D7AA, 0x1D7C2, .every .lower⟩, ⟨0x1D7C4, 0x1D7C9, .every .lower⟩,
  ⟨0x1D7CA, 0x1D7CA, .every .upper⟩, ⟨0x1D7CB, 0x1D7CB, .every .lower⟩,
  ⟨0x1D7CE, 0x1D7FF, .every .numeric⟩, ⟨0x1DA00, 0x1DA36, .every .extend⟩,
  ⟨0x1DA3B, 0x1DA6C, .every .extend⟩, ⟨0x1DA75, 0x1DA75, .every .extend⟩,
  ⟨0x1DA84, 0x1DA84, .every .extend⟩, ⟨0x1DA88, 0x1DA88, .every .terminator⟩,
  ⟨0x1DA9B, 0x1DA9F, .every .extend⟩, ⟨0x1DAA1, 0x1DAAF, .every .extend⟩,
  ⟨0x1DF00, 0x1DF09, .every .lower⟩, ⟨0x1DF0A, 0x1DF0A, .every .letter⟩,
  ⟨0x1DF0B, 0x1DF1E, .every .lower⟩, ⟨0x1DF25, 0x1DF2A, .every .lower⟩,
  ⟨0x1E000, 0x1E006, .every .extend⟩, ⟨0x1E008, 0x1E018, .every .extend⟩,
  ⟨0x1E01B, 0x1E021, .every .extend⟩, ⟨0x1E023, 0x1E024, .every .extend⟩,
  ⟨0x1E026, 0x1E02A, .every .extend⟩, ⟨0x1E030, 0x1E06D, .every .lower⟩,
  ⟨0x1E08F, 0x1E08F, .every .extend⟩, ⟨0x1E100, 0x1E12C, .every .letter⟩,
  ⟨0x1E130, 0x1E136, .every .extend⟩, ⟨0x1E137, 0x1E13D, .every .letter⟩,
  ⟨0x1E140, 0x1E149, .every .numeric⟩, ⟨0x1E14E, 0x1E14E, .every .letter⟩,
  ⟨0x1E290, 0x1E2AD, .every .letter⟩, ⟨0x1E2AE, 0x1E2AE, .every .extend⟩,
  ⟨0x1E2C0, 0x1E2EB, .every .letter⟩, ⟨0x1E2EC, 0x1E2EF, .every .extend⟩,
  ⟨0x1E2F0, 0x1E2F9, .every .numeric⟩, ⟨0x1E4D0, 0x1E4EB, .every .letter⟩,
  ⟨0x1E4EC, 0x1E4EF, .every .extend⟩, ⟨0x1E4F0, 0x1E4F9, .every .numeric⟩,
  ⟨0x1E5D0, 0x1E5ED, .every .letter⟩, ⟨0x1E5EE, 0x1E5EF, .every .extend⟩,
  ⟨0x1E5F0, 0x1E5F0, .every .letter⟩, ⟨0x1E5F1, 0x1E5FA, .every .numeric⟩,
  ⟨0x1E6C0, 0x1E6DE, .every .letter⟩, ⟨0x1E6E0, 0x1E6E2, .every .letter⟩,
  ⟨0x1E6E3, 0x1E6E3, .every .extend⟩, ⟨0x1E6E4, 0x1E6E5, .every .letter⟩,
  ⟨0x1E6E6, 0x1E6E6, .every .extend⟩, ⟨0x1E6E7, 0x1E6ED, .every .letter⟩,
  ⟨0x1E6EE, 0x1E6EF, .every .extend⟩, ⟨0x1E6F0, 0x1E6F4, .every .letter⟩,
  ⟨0x1E6F5, 0x1E6F5, .every .extend⟩, ⟨0x1E6FE, 0x1E6FF, .every .letter⟩,
  ⟨0x1E7E0, 0x1E7E6, .every .letter⟩, ⟨0x1E7E8, 0x1E7EB, .every .letter⟩,
  ⟨0x1E7ED, 0x1E7EE, .every .letter⟩, ⟨0x1E7F0, 0x1E7FE, .every .letter⟩,
  ⟨0x1E800, 0x1E8C4, .every .letter⟩, ⟨0x1E8D0, 0x1E8D6, .every .extend⟩,
  ⟨0x1E900, 0x1E921, .every .upper⟩, ⟨0x1E922, 0x1E943, .every .lower⟩,
  ⟨0x1E944, 0x1E94A, .every .extend⟩, ⟨0x1E94B, 0x1E94B, .every .letter⟩,
  ⟨0x1E950, 0x1E959, .every .numeric⟩, ⟨0x1EE00, 0x1EE03, .every .letter⟩,
  ⟨0x1EE05, 0x1EE1F, .every .letter⟩, ⟨0x1EE21, 0x1EE22, .every .letter⟩,
  ⟨0x1EE24, 0x1EE24, .every .letter⟩, ⟨0x1EE27, 0x1EE27, .every .letter⟩,
  ⟨0x1EE29, 0x1EE32, .every .letter⟩, ⟨0x1EE34, 0x1EE37, .every .letter⟩,
  ⟨0x1EE39, 0x1EE39, .every .letter⟩, ⟨0x1EE3B, 0x1EE3B, .every .letter⟩,
  ⟨0x1EE42, 0x1EE42, .every .letter⟩, ⟨0x1EE47, 0x1EE47, .every .letter⟩,
  ⟨0x1EE49, 0x1EE49, .every .letter⟩, ⟨0x1EE4B, 0x1EE4B, .every .letter⟩,
  ⟨0x1EE4D, 0x1EE4F, .every .letter⟩, ⟨0x1EE51, 0x1EE52, .every .letter⟩,
  ⟨0x1EE54, 0x1EE54, .every .letter⟩, ⟨0x1EE57, 0x1EE57, .every .letter⟩,
  ⟨0x1EE59, 0x1EE59, .every .letter⟩, ⟨0x1EE5B, 0x1EE5B, .every .letter⟩,
  ⟨0x1EE5D, 0x1EE5D, .every .letter⟩, ⟨0x1EE5F, 0x1EE5F, .every .letter⟩,
  ⟨0x1EE61, 0x1EE62, .every .letter⟩, ⟨0x1EE64, 0x1EE64, .every .letter⟩,
  ⟨0x1EE67, 0x1EE6A, .every .letter⟩, ⟨0x1EE6C, 0x1EE72, .every .letter⟩,
  ⟨0x1EE74, 0x1EE77, .every .letter⟩, ⟨0x1EE79, 0x1EE7C, .every .letter⟩,
  ⟨0x1EE7E, 0x1EE7E, .every .letter⟩, ⟨0x1EE80, 0x1EE89, .every .letter⟩,
  ⟨0x1EE8B, 0x1EE9B, .every .letter⟩, ⟨0x1EEA1, 0x1EEA3, .every .letter⟩,
  ⟨0x1EEA5, 0x1EEA9, .every .letter⟩, ⟨0x1EEAB, 0x1EEBB, .every .letter⟩,
  ⟨0x1F130, 0x1F149, .every .upper⟩, ⟨0x1F150, 0x1F169, .every .upper⟩,
  ⟨0x1F170, 0x1F189, .every .upper⟩, ⟨0x1F676, 0x1F678, .every .close⟩,
  ⟨0x1FBF0, 0x1FBF9, .every .numeric⟩, ⟨0x20000, 0x2A6DF, .every .letter⟩,
  ⟨0x2A700, 0x2B81D, .every .letter⟩, ⟨0x2B820, 0x2CEAD, .every .letter⟩,
  ⟨0x2CEB0, 0x2EBE0, .every .letter⟩, ⟨0x2EBF0, 0x2EE5D, .every .letter⟩,
  ⟨0x2F800, 0x2FA1D, .every .letter⟩, ⟨0x30000, 0x3134A, .every .letter⟩,
  ⟨0x31350, 0x33479, .every .letter⟩, ⟨0xE0001, 0xE0001, .every .format⟩,
  ⟨0xE0020, 0xE007F, .every .extend⟩, ⟨0xE0100, 0xE01EF, .every .extend⟩]

def classTable : Array (Stretch StretchClass) :=
  classesBelow800 ++ classesFrom800 ++ classesFrom2000 ++
    classesFrom10000 ++ classesFrom1D000

def classOf (c : Char) : CharClass :=
  match CodeTable.find? classTable c with
  | none => .other
  | some ⟨_, _, .every charClass⟩ => charClass
  | some ⟨first, _, .cased⟩ => if (c.toNat - first) % 2 = 0 then .upper else .lower

end Chunking.Text.Sentence
