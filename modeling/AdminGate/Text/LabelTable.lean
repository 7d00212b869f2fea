/-!
# Characters of host names

The characters that a host name may hold, version 14 of the Unicode character database, by the
direction in which they are written, and all marks with their combining order.
`AdminGate.Text.Composition` and `AdminGate.Text.Label` read these tables; nothing else does.
-/

namespace AdminGate.Text

/-- The code points `first`, `first + stride`, … up to `last`. -/
structure Span where
  first : Nat
  last : Nat
  stride : Nat

structure MarkSpan where
  span : Span
  order : Nat

/-- Letters and signs of scripts that run from left to right. -/
def leftLetters : List Span := [
  ⟨0x0061, 0x007A, 1⟩, ⟨0x00DF, 0x00F6, 1⟩, ⟨0x00F8, 0x00FF, 1⟩, ⟨0x0101, 0x0131, 2⟩,
  ⟨0x0135, 0x0135, 1⟩, ⟨0x0137, 0x0138, 1⟩, ⟨0x013A, 0x013E, 2⟩, ⟨0x0142, 0x0148, 2⟩,
  ⟨0x014B, 0x0177, 2⟩, ⟨0x017A, 0x0180, 2⟩, ⟨0x0183, 0x0183, 1⟩, ⟨0x0185, 0x0185, 1⟩,
  ⟨0x0188, 0x0188, 1⟩, ⟨0x018C, 0x018D, 1⟩, ⟨0x0192, 0x0192, 1⟩, ⟨0x0195, 0x0195, 1⟩,
  ⟨0x0199, 0x019B, 1⟩, ⟨0x019E, 0x019E, 1⟩, ⟨0x01A1, 0x01A5, 2⟩, ⟨0x01A8, 0x01A8, 1⟩,
  ⟨0x01AA, 0x01AB, 1⟩, ⟨0x01AD, 0x01AD, 1⟩, ⟨0x01B0, 0x01B0, 1⟩, ⟨0x01B4, 0x01B4, 1⟩,
  ⟨0x01B6, 0x01B6, 1⟩, ⟨0x01B9, 0x01BB, 1⟩, ⟨0x01BD, 0x01C3, 1⟩, ⟨0x01CE, 0x01DC, 2⟩,
  ⟨0x01DD, 0x01EF, 2⟩, ⟨0x01F0, 0x01F0, 1⟩, ⟨0x01F5, 0x01F5, 1⟩, ⟨0x01F9, 0x0233, 2⟩,
  ⟨0x0234, 0x0239, 1⟩, ⟨0x023C, 0x023C, 1⟩, ⟨0x023F, 0x0240, 1⟩, ⟨0x0242, 0x0242, 1⟩,
  ⟨0x0247, 0x024F, 2⟩, ⟨0x0250, 0x02AF, 1⟩, ⟨0x02BB, 0x02C1, 1⟩, ⟨0x02D0, 0x02D1, 1⟩,
  ⟨0x02EE, 0x02EE, 1⟩, ⟨0x0371, 0x0371, 1⟩, ⟨0x0373, 0x0373, 1⟩, ⟨0x0377, 0x0377, 1⟩,
  ⟨0x037B, 0x037D, 1⟩, ⟨0x0390, 0x0390, 1⟩, ⟨0x03AC, 0x03CE, 1⟩, ⟨0x03D7, 0x03EF, 2⟩,
  ⟨0x03F3, 0x03F3, 1⟩, ⟨0x03F8, 0x03F8, 1⟩, ⟨0x03FB, 0x03FC, 1⟩, ⟨0x0430, 0x045F, 1⟩,
  ⟨0x0461, 0x0481, 2⟩, ⟨0x048B, 0x04BF, 2⟩, ⟨0x04C2, 0x04CE, 2⟩, ⟨0x04CF, 0x052F, 2⟩,
  ⟨0x0559, 0x0559, 1⟩, ⟨0x0560, 0x0586, 1⟩, ⟨0x0588, 0x0588, 1⟩, ⟨0x0904, 0x0939, 1⟩,
  ⟨0x093D, 0x093D, 1⟩, ⟨0x0950, 0x0950, 1⟩, ⟨0x0960, 0x0961, 1⟩, ⟨0x0966, 0x096F, 1⟩,
  ⟨0x0971, 0x0980, 1⟩, ⟨0x0985, 0x098C, 1⟩, ⟨0x098F, 0x0990, 1⟩, ⟨0x0993, 0x09A8, 1⟩,
  ⟨0x09AA, 0x09B0, 1⟩, ⟨0x09B2, 0x09B2, 1⟩, ⟨0x09B6, 0x09B9, 1⟩, ⟨0x09BD, 0x09BD, 1⟩,
  ⟨0x09CE, 0x09CE, 1⟩, ⟨0x09E0, 0x09E1, 1⟩, ⟨0x09E6, 0x09F1, 1⟩, ⟨0x09FC, 0x09FC, 1⟩,
  ⟨0x0A05, 0x0A0A, 1⟩, ⟨0x0A0F, 0x0A10, 1⟩, ⟨0x0A13, 0x0A28, 1⟩, ⟨0x0A2A, 0x0A30, 1⟩,
  ⟨0x0A32, 0x0A32, 1⟩, ⟨0x0A35, 0x0A35, 1⟩, ⟨0x0A38, 0x0A39, 1⟩, ⟨0x0A5C, 0x0A5C, 1⟩,
  ⟨0x0A66, 0x0A6F, 1⟩, ⟨0x0A72, 0x0A74, 1⟩, ⟨0x0A85, 0x0A8D, 1⟩, ⟨0x0A8F, 0x0A91, 1⟩,
  ⟨0x0A93, 0x0AA8, 1⟩, ⟨0x0AAA, 0x0AB0, 1⟩, ⟨0x0AB2, 0x0AB3, 1⟩, ⟨0x0AB5, 0x0AB9, 1⟩,
  ⟨0x0ABD, 0x0ABD, 1⟩, ⟨0x0AD0, 0x0AD0, 1⟩, ⟨0x0AE0, 0x0AE1, 1⟩, ⟨0x0AE6, 0x0AEF, 1⟩,
  ⟨0x0AF9, 0x0AF9, 1⟩, ⟨0x0B05, 0x0B0C, 1⟩, ⟨0x0B0F, 0x0B10, 1⟩, ⟨0x0B13, 0x0B28, 1⟩,
  ⟨0x0B2A, 0x0B30, 1⟩, ⟨0x0B32, 0x0B33, 1⟩, ⟨0x0B35, 0x0B39, 1⟩, ⟨0x0B3D, 0x0B3D, 1⟩,
  ⟨0x0B5F, 0x0B61, 1⟩, ⟨0x0B66, 0x0B6F, 1⟩, ⟨0x0B71, 0x0B71, 1⟩, ⟨0x0B83, 0x0B83, 1⟩,
  ⟨0x0B85, 0x0B8A, 1⟩, ⟨0x0B8E, 0x0B90, 1⟩, ⟨0x0B92, 0x0B95, 1⟩, ⟨0x0B99, 0x0B9A, 1⟩,
  ⟨0x0B9C, 0x0B9C, 1⟩, ⟨0x0B9E, 0x0B9F, 1⟩, ⟨0x0BA3, 0x0BA4, 1⟩, ⟨0x0BA8, 0x0BAA, 1⟩,
  ⟨0x0BAE, 0x0BB9, 1⟩, ⟨0x0BD0, 0x0BD0, 1⟩, ⟨0x0BE6, 0x0BEF, 1⟩, ⟨0x0C05, 0x0C0C, 1⟩,
  ⟨0x0C0E, 0x0C10, 1⟩, ⟨0x0C12, 0x0C28, 1⟩, ⟨0x0C2A, 0x0C39, 1⟩, ⟨0x0C3D, 0x0C3D, 1⟩,
  ⟨0x0C58, 0x0C5A, 1⟩, ⟨0x0C5D, 0x0C5D, 1⟩, ⟨0x0C60, 0x0C61, 1⟩, ⟨0x0C66, 0x0C6F, 1⟩,
  ⟨0x0C80, 0x0C80, 1⟩, ⟨0x0C85, 0x0C8C, 1⟩, ⟨0x0C8E, 0x0C90, 1⟩, ⟨0x0C92, 0x0CA8, 1⟩,
  ⟨0x0CAA, 0x0CB3, 1⟩, ⟨0x0CB5, 0x0CB9, 1⟩, ⟨0x0CBD, 0x0CBD, 1⟩, ⟨0x0CDD, 0x0CDE, 1⟩,
  ⟨0x0CE0, 0x0CE1, 1⟩, ⟨0x0CE6, 0x0CEF, 1⟩, ⟨0x0CF1, 0x0CF2, 1⟩, ⟨0x0D04, 0x0D0C, 1⟩,
  ⟨0x0D0E, 0x0D10, 1⟩, ⟨0x0D12, 0x0D3A, 1⟩, ⟨0x0D3D, 0x0D3D, 1⟩, ⟨0x0D4E, 0x0D4E, 1⟩,
  ⟨0x0D54, 0x0D56, 1⟩, ⟨0x0D5F, 0x0D61, 1⟩, ⟨0x0D66, 0x0D6F, 1⟩, ⟨0x0D7A, 0x0D7F, 1⟩,
  ⟨0x0D85, 0x0D96, 1⟩, ⟨0x0D9A, 0x0DB1, 1⟩, ⟨0x0DB3, 0x0DBB, 1⟩, ⟨0x0DBD, 0x0DBD, 1⟩,
  ⟨0x0DC0, 0x0DC6, 1⟩, ⟨0x0DE6, 0x0DEF, 1⟩, ⟨0x0E01, 0x0E30, 1⟩, ⟨0x0E32, 0x0E32, 1⟩,
  ⟨0x0E40, 0x0E46, 1⟩, ⟨0x0E50, 0x0E59, 1⟩, ⟨0x0E81, 0x0E82, 1⟩, ⟨0x0E84, 0x0E84, 1⟩,
  ⟨0x0E86, 0x0E8A, 1⟩, ⟨0x0E8C, 0x0EA3, 1⟩, ⟨0x0EA5, 0x0EA5, 1⟩, ⟨0x0EA7, 0x0EB0, 1⟩,
  ⟨0x0EB2, 0x0EB2, 1⟩, ⟨0x0EBD, 0x0EBD, 1⟩, ⟨0x0EC0, 0x0EC4, 1⟩, ⟨0x0EC6, 0x0EC6, 1⟩,
  ⟨0x0ED0, 0x0ED9, 1⟩, ⟨0x0EDE, 0x0EDF, 1⟩, ⟨0x0F00, 0x0F00, 1⟩, ⟨0x0F0B, 0x0F0B, 1⟩,
  ⟨0x0F20, 0x0F29, 1⟩, ⟨0x0F40, 0x0F42, 1⟩, ⟨0x0F44, 0x0F47, 1⟩, ⟨0x0F49, 0x0F4C, 1⟩,
  ⟨0x0F4E, 0x0F51, 1⟩, ⟨0x0F53, 0x0F56, 1⟩, ⟨0x0F58, 0x0F5B, 1⟩, ⟨0x0F5D, 0x0F68, 1⟩,
  ⟨0x0F6A, 0x0F6C, 1⟩, ⟨0x0F88, 0x0F8C, 1⟩, ⟨0x1000, 0x102A, 1⟩, ⟨0x103F, 0x1049, 1⟩,
  ⟨0x1050, 0x1055, 1⟩, ⟨0x105A, 0x105D, 1⟩, ⟨0x1061, 0x1061, 1⟩, ⟨0x1065, 0x1066, 1⟩,
  ⟨0x106E, 0x1070, 1⟩, ⟨0x1075, 0x1081, 1⟩, ⟨0x108E, 0x108E, 1⟩, ⟨0x1090, 0x1099, 1⟩,
  ⟨0x10D0, 0x10FA, 1⟩, ⟨0x10FD, 0x10FF, 1⟩, ⟨0x1200, 0x1248, 1⟩, ⟨0x124A, 0x124D, 1⟩,
  ⟨0x1250, 0x1256, 1⟩, ⟨0x1258, 0x1258, 1⟩, ⟨0x125A, 0x125D, 1⟩, ⟨0x1260, 0x1288, 1⟩,
  ⟨0x128A, 0x128D, 1⟩, ⟨0x1290, 0x12B0, 1⟩, ⟨0x12B2, 0x12B5, 1⟩, ⟨0x12B8, 0x12BE, 1⟩,
  ⟨0x12C0, 0x12C0, 1⟩, ⟨0x12C2, 0x12C5, 1⟩, ⟨0x12C8, 0x12D6, 1⟩, ⟨0x12D8, 0x1310, 1⟩,
  ⟨0x1312, 0x1315, 1⟩, ⟨0x1318, 0x135A, 1⟩, ⟨0x1380, 0x138F, 1⟩, ⟨0x13A0, 0x13F5, 1⟩,
  ⟨0x1401, 0x166C, 1⟩, ⟨0x166F, 0x167F, 1⟩, ⟨0x1681, 0x169A, 1⟩, ⟨0x16A0, 0x16EA, 1⟩,
  ⟨0x16F1, 0x16F8, 1⟩, ⟨0x1700, 0x1711, 1⟩, ⟨0x171F, 0x1731, 1⟩, ⟨0x1740, 0x1751, 1⟩,
  ⟨0x1760, 0x176C, 1⟩, ⟨0x176E, 0x1770, 1⟩, ⟨0x1780, 0x17B3, 1⟩, ⟨0x17D7, 0x17D7, 1⟩,
  ⟨0x17DC, 0x17DC, 1⟩, ⟨0x17E0, 0x17E9, 1⟩, ⟨0x1810, 0x1819, 1⟩, ⟨0x1820, 0x1878, 1⟩,
  ⟨0x1880, 0x1884, 1⟩, ⟨0x1887, 0x18A8, 1⟩, ⟨0x18AA, 0x18AA, 1⟩, ⟨0x18B0, 0x18F5, 1⟩,
  ⟨0x1900, 0x191E, 1⟩, ⟨0x1946, 0x196D, 1⟩, ⟨0x1970, 0x1974, 1⟩, ⟨0x1980, 0x19AB, 1⟩,
  ⟨0x19B0, 0x19C9, 1⟩, ⟨0x19D0, 0x19D9, 1⟩, ⟨0x1A00, 0x1A16, 1⟩, ⟨0x1A20, 0x1A54, 1⟩,
  ⟨0x1A80, 0x1A89, 1⟩, ⟨0x1A90, 0x1A99, 1⟩, ⟨0x1AA7, 0x1AA7, 1⟩, ⟨0x1B05, 0x1B33, 1⟩,
  ⟨0x1B45, 0x1B4C, 1⟩, ⟨0x1B50, 0x1B59, 1⟩, ⟨0x1B83, 0x1BA0, 1⟩, ⟨0x1BAE, 0x1BE5, 1⟩,
  ⟨0x1C00, 0x1C23, 1⟩, ⟨0x1C40, 0x1C49, 1⟩, ⟨0x1C4D, 0x1C7D, 1⟩, ⟨0x1CE9, 0x1CEC, 1⟩,
  ⟨0x1CEE, 0x1CF3, 1⟩, ⟨0x1CF5, 0x1CF6, 1⟩, ⟨0x1CFA, 0x1CFA, 1⟩, ⟨0x1D00, 0x1D2B, 1⟩,
  ⟨0x1D2F, 0x1D2F, 1⟩, ⟨0x1D3B, 0x1D3B, 1⟩, ⟨0x1D4E, 0x1D4E, 1⟩, ⟨0x1D6B, 0x1D77, 1⟩,
  ⟨0x1D79, 0x1D9A, 1⟩, ⟨0x1E01, 0x1E95, 2⟩, ⟨0x1E96, 0x1E99, 1⟩, ⟨0x1E9C, 0x1E9D, 1⟩,
  ⟨0x1E9F, 0x1EFF, 2⟩, ⟨0x1F00, 0x1F07, 1⟩, ⟨0x1F10, 0x1F15, 1⟩, ⟨0x1F20, 0x1F27, 1⟩,
  ⟨0x1F30, 0x1F37, 1⟩, ⟨0x1F40, 0x1F45, 1⟩, ⟨0x1F50, 0x1F57, 1⟩, ⟨0x1F60, 0x1F67, 1⟩,
  ⟨0x1F70, 0x1F7C, 2⟩, ⟨0x1FB0, 0x1FB1, 1⟩, ⟨0x1FB6, 0x1FB6, 1⟩, ⟨0x1FC6, 0x1FC6, 1⟩,
  ⟨0x1FD0, 0x1FD2, 1⟩, ⟨0x1FD6, 0x1FD7, 1⟩, ⟨0x1FE0, 0x1FE2, 1⟩, ⟨0x1FE4, 0x1FE7, 1⟩,
  ⟨0x1FF6, 0x1FF6, 1⟩, ⟨0x214E, 0x214E, 1⟩, ⟨0x2184, 0x2184, 1⟩, ⟨0x2C30, 0x2C5F, 1⟩,
  ⟨0x2C61, 0x2C61, 1⟩, ⟨0x2C65, 0x2C66, 1⟩, ⟨0x2C68, 0x2C6C, 2⟩, ⟨0x2C71, 0x2C71, 1⟩,
  ⟨0x2C73, 0x2C74, 1⟩, ⟨0x2C76, 0x2C7B, 1⟩, ⟨0x2C81, 0x2CE3, 2⟩, ⟨0x2CE4, 0x2CE4, 1⟩,
  ⟨0x2CEC, 0x2CEC, 1⟩, ⟨0x2CEE, 0x2CEE, 1⟩, ⟨0x2CF3, 0x2CF3, 1⟩, ⟨0x2D00, 0x2D25, 1⟩,
  ⟨0x2D27, 0x2D27, 1⟩, ⟨0x2D2D, 0x2D2D, 1⟩, ⟨0x2D30, 0x2D67, 1⟩, ⟨0x2D80, 0x2D96, 1⟩,
  ⟨0x2DA0, 0x2DA6, 1⟩, ⟨0x2DA8, 0x2DAE, 1⟩, ⟨0x2DB0, 0x2DB6, 1⟩, ⟨0x2DB8, 0x2DBE, 1⟩,
  ⟨0x2DC0, 0x2DC6, 1⟩, ⟨0x2DC8, 0x2DCE, 1⟩, ⟨0x2DD0, 0x2DD6, 1⟩, ⟨0x2DD8, 0x2DDE, 1⟩,
  ⟨0x3005, 0x3007, 1⟩, ⟨0x303C, 0x303C, 1⟩, ⟨0x3041, 0x3096, 1⟩, ⟨0x309D, 0x309E, 1⟩,
  ⟨0x30A1, 0x30FA, 1⟩, ⟨0x30FC, 0x30FE, 1⟩, ⟨0x3105, 0x312F, 1⟩, ⟨0x31A0, 0x31BF, 1⟩,
  ⟨0x31F0, 0x31FF, 1⟩, ⟨0x3400, 0x4DBF, 1⟩, ⟨0x4E00, 0xA48C, 1⟩, ⟨0xA4D0, 0xA4FD, 1⟩,
  ⟨0xA500, 0xA60C, 1⟩, ⟨0xA610, 0xA62B, 1⟩, ⟨0xA641, 0xA66D, 2⟩, ⟨0xA66E, 0xA66E, 1⟩,
  ⟨0xA681, 0xA69B, 2⟩, ⟨0xA6A0, 0xA6E5, 1⟩, ⟨0xA723, 0xA72F, 2⟩, ⟨0xA730, 0xA731, 1⟩,
  ⟨0xA733, 0xA771, 2⟩, ⟨0xA772, 0xA778, 1⟩, ⟨0xA77A, 0xA77A, 1⟩, ⟨0xA77C, 0xA77C, 1⟩,
  ⟨0xA77F, 0xA787, 2⟩, ⟨0xA78C, 0xA78C, 1⟩, ⟨0xA78E, 0xA78F, 1⟩, ⟨0xA791, 0xA791, 1⟩,
  ⟨0xA793, 0xA795, 1⟩, ⟨0xA797, 0xA7A9, 2⟩, ⟨0xA7AF, 0xA7AF, 1⟩, ⟨0xA7B5, 0xA7C3, 2⟩,
  ⟨0xA7C8, 0xA7C8, 1⟩, ⟨0xA7CA, 0xA7CA, 1⟩, ⟨0xA7D1, 0xA7D9, 2⟩, ⟨0xA7F6, 0xA7F7, 1⟩,
  ⟨0xA7FA, 0xA801, 1⟩, ⟨0xA803, 0xA805, 1⟩, ⟨0xA807, 0xA80A, 1⟩, ⟨0xA80C, 0xA822, 1⟩,
  ⟨0xA840, 0xA873, 1⟩, ⟨0xA882, 0xA8B3, 1⟩, ⟨0xA8D0, 0xA8D9, 1⟩, ⟨0xA8F2, 0xA8F7, 1⟩,
  ⟨0xA8FB, 0xA8FB, 1⟩, ⟨0xA8FD, 0xA8FE, 1⟩, ⟨0xA900, 0xA925, 1⟩, ⟨0xA930, 0xA946, 1⟩,
  ⟨0xA984, 0xA9B2, 1⟩, ⟨0xA9CF, 0xA9D9, 1⟩, ⟨0xA9E0, 0xA9E4, 1⟩, ⟨0xA9E6, 0xA9FE, 1⟩,
  ⟨0xAA00, 0xAA28, 1⟩, ⟨0xAA40, 0xAA42, 1⟩, ⟨0xAA44, 0xAA4B, 1⟩, ⟨0xAA50, 0xAA59, 1⟩,
  ⟨0xAA60, 0xAA76, 1⟩, ⟨0xAA7A, 0xAA7A, 1⟩, ⟨0xAA7E, 0xAAAF, 1⟩, ⟨0xAAB1, 0xAAB1, 1⟩,
  ⟨0xAAB5, 0xAAB6, 1⟩, ⟨0xAAB9, 0xAABD, 1⟩, ⟨0xAAC0, 0xAAC0, 1⟩, ⟨0xAAC2, 0xAAC2, 1⟩,
  ⟨0xAADB, 0xAADD, 1⟩, ⟨0xAAE0, 0xAAEA, 1⟩, ⟨0xAAF2, 0xAAF4, 1⟩, ⟨0xAB01, 0xAB06, 1⟩,
  ⟨0xAB09, 0xAB0E, 1⟩, ⟨0xAB11, 0xAB16, 1⟩, ⟨0xAB20, 0xAB26, 1⟩, ⟨0xAB28, 0xAB2E, 1⟩,
  ⟨0xAB30, 0xAB5A, 1⟩, ⟨0xAB60, 0xAB68, 1⟩, ⟨0xABC0, 0xABE2, 1⟩, ⟨0xABF0, 0xABF9, 1⟩,
  ⟨0xAC00, 0xD7A3, 1⟩, ⟨0xFA0E, 0xFA0F, 1⟩, ⟨0xFA11, 0xFA11, 1⟩, ⟨0xFA13, 0xFA14, 1⟩,
  ⟨0xFA1F, 0xFA23, 2⟩, ⟨0xFA24, 0xFA24, 1⟩, ⟨0xFA27, 0xFA29, 1⟩, ⟨0x10000, 0x1000B, 1⟩,
  ⟨0x1000D, 0x10026, 1⟩, ⟨0x10028, 0x1003A, 1⟩, ⟨0x1003C, 0x1003D, 1⟩, ⟨0x1003F, 0x1004D, 1⟩,
  ⟨0x10050, 0x1005D, 1⟩, ⟨0x10080, 0x100FA, 1⟩, ⟨0x10280, 0x1029C, 1⟩, ⟨0x102A0, 0x102D0, 1⟩,
  ⟨0x10300, 0x1031F, 1⟩, ⟨0x1032D, 0x10340, 1⟩, ⟨0x10342, 0x10349, 1⟩, ⟨0x10350, 0x10375, 1⟩,
  ⟨0x10380, 0x1039D, 1⟩, ⟨0x103A0, 0x103C3, 1⟩, ⟨0x103C8, 0x103CF, 1⟩, ⟨0x10428, 0x1049D, 1⟩,
  ⟨0x104A0, 0x104A9, 1⟩, ⟨0x104D8, 0x104FB, 1⟩, ⟨0x10500, 0x10527, 1⟩, ⟨0x10530, 0x10563, 1⟩,
  ⟨0x10597, 0x105A1, 1⟩, ⟨0x105A3, 0x105B1, 1⟩, ⟨0x105B3, 0x105B9, 1⟩, ⟨0x105BB, 0x105BC, 1⟩,
  ⟨0x10600, 0x10736, 1⟩, ⟨0x10740, 0x10755, 1⟩, ⟨0x10760, 0x10767, 1⟩, ⟨0x10780, 0x10780, 1⟩,
  ⟨0x11003, 0x11037, 1⟩, ⟨0x11066, 0x1106F, 1⟩, ⟨0x11071, 0x11072, 1⟩, ⟨0x11075, 0x11075, 1⟩,
  ⟨0x11083, 0x110AF, 1⟩, ⟨0x110D0, 0x110E8, 1⟩, ⟨0x110F0, 0x110F9, 1⟩, ⟨0x11103, 0x11126, 1⟩,
  ⟨0x11136, 0x1113F, 1⟩, ⟨0x11144, 0x11144, 1⟩, ⟨0x11147, 0x11147, 1⟩, ⟨0x11150, 0x11172, 1⟩,
  ⟨0x11176, 0x11176, 1⟩, ⟨0x11183, 0x111B2, 1⟩, ⟨0x111C1, 0x111C4, 1⟩, ⟨0x111D0, 0x111DA, 1⟩,
  ⟨0x111DC, 0x111DC, 1⟩, ⟨0x11200, 0x11211, 1⟩, ⟨0x11213, 0x1122B, 1⟩, ⟨0x11280, 0x11286, 1⟩,
  ⟨0x11288, 0x11288, 1⟩, ⟨0x1128A, 0x1128D, 1⟩, ⟨0x1128F, 0x1129D, 1⟩, ⟨0x1129F, 0x112A8, 1⟩,
  ⟨0x112B0, 0x112DE, 1⟩, ⟨0x112F0, 0x112F9, 1⟩, ⟨0x11305, 0x1130C, 1⟩, ⟨0x1130F, 0x11310, 1⟩,
  ⟨0x11313, 0x11328, 1⟩, ⟨0x1132A, 0x11330, 1⟩, ⟨0x11332, 0x11333, 1⟩, ⟨0x11335, 0x11339, 1⟩,
  ⟨0x1133D, 0x1133D, 1⟩, ⟨0x11350, 0x11350, 1⟩, ⟨0x1135D, 0x11361, 1⟩, ⟨0x11400, 0x11434, 1⟩,
  ⟨0x11447, 0x1144A, 1⟩, ⟨0x11450, 0x11459, 1⟩, ⟨0x1145F, 0x11461, 1⟩, ⟨0x11480, 0x114AF, 1⟩,
  ⟨0x114C4, 0x114C5, 1⟩, ⟨0x114C7, 0x114C7, 1⟩, ⟨0x114D0, 0x114D9, 1⟩, ⟨0x11580, 0x115AE, 1⟩,
  ⟨0x115D8, 0x115DB, 1⟩, ⟨0x11600, 0x1162F, 1⟩, ⟨0x11644, 0x11644, 1⟩, ⟨0x11650, 0x11659, 1⟩,
  ⟨0x11680, 0x116AA, 1⟩, ⟨0x116B8, 0x116B8, 1⟩, ⟨0x116C0, 0x116C9, 1⟩, ⟨0x11700, 0x1171A, 1⟩,
  ⟨0x11730, 0x11739, 1⟩, ⟨0x11740, 0x11746, 1⟩, ⟨0x11800, 0x1182B, 1⟩, ⟨0x118C0, 0x118E9, 1⟩,
  ⟨0x118FF, 0x11906, 1⟩, ⟨0x11909, 0x11909, 1⟩, ⟨0x1190C, 0x11913, 1⟩, ⟨0x11915, 0x11916, 1⟩,
  ⟨0x11918, 0x1192F, 1⟩, ⟨0x1193F, 0x1193F, 1⟩, ⟨0x11941, 0x11941, 1⟩, ⟨0x11950, 0x11959, 1⟩,
  ⟨0x119A0, 0x119A7, 1⟩, ⟨0x119AA, 0x119D0, 1⟩, ⟨0x119E1, 0x119E1, 1⟩, ⟨0x119E3, 0x119E3, 1⟩,
  ⟨0x11A00, 0x11A00, 1⟩, ⟨0x11A0B, 0x11A32, 1⟩, ⟨0x11A3A, 0x11A3A, 1⟩, ⟨0x11A50, 0x11A50, 1⟩,
  ⟨0x11A5C, 0x11A89, 1⟩, ⟨0x11A9D, 0x11A9D, 1⟩, ⟨0x11AB0, 0x11AF8, 1⟩, ⟨0x11C00, 0x11C08, 1⟩,
  ⟨0x11C0A, 0x11C2E, 1⟩, ⟨0x11C40, 0x11C40, 1⟩, ⟨0x11C50, 0x11C59, 1⟩, ⟨0x11C72, 0x11C8F, 1⟩,
  ⟨0x11D00, 0x11D06, 1⟩, ⟨0x11D08, 0x11D09, 1⟩, ⟨0x11D0B, 0x11D30, 1⟩, ⟨0x11D46, 0x11D46, 1⟩,
  ⟨0x11D50, 0x11D59, 1⟩, ⟨0x11D60, 0x11D65, 1⟩, ⟨0x11D67, 0x11D68, 1⟩, ⟨0x11D6A, 0x11D89, 1⟩,
  ⟨0x11D98, 0x11D98, 1⟩, ⟨0x11DA0, 0x11DA9, 1⟩, ⟨0x11EE0, 0x11EF2, 1⟩, ⟨0x11FB0, 0x11FB0, 1⟩,
  ⟨0x12000, 0x12399, 1⟩, ⟨0x12480, 0x12543, 1⟩, ⟨0x12F90, 0x12FF0, 1⟩, ⟨0x13000, 0x1342E, 1⟩,
  ⟨0x14400, 0x14646, 1⟩, ⟨0x16800, 0x16A38, 1⟩, ⟨0x16A40, 0x16A5E, 1⟩, ⟨0x16A60, 0x16A69, 1⟩,
  ⟨0x16A70, 0x16ABE, 1⟩, ⟨0x16AC0, 0x16AC9, 1⟩, ⟨0x16AD0, 0x16AED, 1⟩, ⟨0x16B00, 0x16B2F, 1⟩,
  ⟨0x16B40, 0x16B43, 1⟩, ⟨0x16B50, 0x16B59, 1⟩, ⟨0x16B63, 0x16B77, 1⟩, ⟨0x16B7D, 0x16B8F, 1⟩,
  ⟨0x16E60, 0x16E7F, 1⟩, ⟨0x16F00, 0x16F4A, 1⟩, ⟨0x16F50, 0x16F50, 1⟩, ⟨0x16F93, 0x16F9F, 1⟩,
  ⟨0x16FE0, 0x16FE1, 1⟩, ⟨0x16FE3, 0x16FE3, 1⟩, ⟨0x17000, 0x187F7, 1⟩, ⟨0x18800, 0x18CD5, 1⟩,
  ⟨0x18D00, 0x18D08, 1⟩, ⟨0x1AFF0, 0x1AFF3, 1⟩, ⟨0x1AFF5, 0x1AFFB, 1⟩, ⟨0x1AFFD, 0x1AFFE, 1⟩,
  ⟨0x1B000, 0x1B122, 1⟩, ⟨0x1B150, 0x1B152, 1⟩, ⟨0x1B164, 0x1B167, 1⟩, ⟨0x1B170, 0x1B2FB, 1⟩,
  ⟨0x1BC00, 0x1BC6A, 1⟩, ⟨0x1BC70, 0x1BC7C, 1⟩, ⟨0x1BC80, 0x1BC88, 1⟩, ⟨0x1BC90, 0x1BC99, 1⟩,
  ⟨0x1DF00, 0x1DF1E, 1⟩, ⟨0x1E100, 0x1E12C, 1⟩, ⟨0x1E137, 0x1E13D, 1⟩, ⟨0x1E140, 0x1E149, 1⟩,
  ⟨0x1E14E, 0x1E14E, 1⟩, ⟨0x1E290, 0x1E2AD, 1⟩, ⟨0x1E2C0, 0x1E2EB, 1⟩, ⟨0x1E2F0, 0x1E2F9, 1⟩,
  ⟨0x1E7E0, 0x1E7E6, 1⟩, ⟨0x1E7E8, 0x1E7EB, 1⟩, ⟨0x1E7ED, 0x1E7EE, 1⟩, ⟨0x1E7F0, 0x1E7FE, 1⟩,
  ⟨0x20000, 0x2A6DF, 1⟩, ⟨0x2A700, 0x2B738, 1⟩, ⟨0x2B740, 0x2B81D, 1⟩, ⟨0x2B820, 0x2CEA1, 1⟩,
  ⟨0x2CEB0, 0x2EBE0, 1⟩, ⟨0x30000, 0x3134A, 1⟩]

/-- Letters of scripts that run from right to left, other than those of Arabic. -/
def rightLetters : List Span := [
  ⟨0x05D0, 0x05EA, 1⟩, ⟨0x05EF, 0x05F4, 1⟩, ⟨0x07C0, 0x07EA, 1⟩, ⟨0x07F4, 0x07F5, 1⟩,
  ⟨0x0800, 0x0815, 1⟩, ⟨0x081A, 0x081A, 1⟩, ⟨0x0824, 0x0824, 1⟩, ⟨0x0828, 0x0828, 1⟩,
  ⟨0x0840, 0x0858, 1⟩, ⟨0x10800, 0x10805, 1⟩, ⟨0x10808, 0x10808, 1⟩, ⟨0x1080A, 0x10835, 1⟩,
  ⟨0x10837, 0x10838, 1⟩, ⟨0x1083C, 0x1083C, 1⟩, ⟨0x1083F, 0x10855, 1⟩, ⟨0x10860, 0x10876, 1⟩,
  ⟨0x10880, 0x1089E, 1⟩, ⟨0x108E0, 0x108F2, 1⟩, ⟨0x108F4, 0x108F5, 1⟩, ⟨0x10900, 0x10915, 1⟩,
  ⟨0x10920, 0x10939, 1⟩, ⟨0x10980, 0x109B7, 1⟩, ⟨0x109BE, 0x109BF, 1⟩, ⟨0x10A00, 0x10A00, 1⟩,
  ⟨0x10A10, 0x10A13, 1⟩, ⟨0x10A15, 0x10A17, 1⟩, ⟨0x10A19, 0x10A35, 1⟩, ⟨0x10A60, 0x10A7C, 1⟩,
  ⟨0x10A80, 0x10A9C, 1⟩, ⟨0x10AC0, 0x10AC7, 1⟩, ⟨0x10AC9, 0x10AE4, 1⟩, ⟨0x10B00, 0x10B35, 1⟩,
  ⟨0x10B40, 0x10B55, 1⟩, ⟨0x10B60, 0x10B72, 1⟩, ⟨0x10B80, 0x10B91, 1⟩, ⟨0x10C00, 0x10C48, 1⟩,
  ⟨0x10CC0, 0x10CF2, 1⟩, ⟨0x10E80, 0x10EA9, 1⟩, ⟨0x10EB0, 0x10EB1, 1⟩, ⟨0x10F00, 0x10F1C, 1⟩,
  ⟨0x10F27, 0x10F27, 1⟩, ⟨0x10F70, 0x10F81, 1⟩, ⟨0x10FB0, 0x10FC4, 1⟩, ⟨0x10FE0, 0x10FF6, 1⟩,
  ⟨0x1E800, 0x1E8C4, 1⟩, ⟨0x1E922, 0x1E943, 1⟩, ⟨0x1E94B, 0x1E94B, 1⟩, ⟨0x1E950, 0x1E959, 1⟩]

/-- Letters of Arabic and of the scripts that are laid out with it. -/
def arabicLetters : List Span := [
  ⟨0x0620, 0x063F, 1⟩, ⟨0x0641, 0x064A, 1⟩, ⟨0x066E, 0x066F, 1⟩, ⟨0x0671, 0x0674, 1⟩,
  ⟨0x0679, 0x06D3, 1⟩, ⟨0x06D5, 0x06D5, 1⟩, ⟨0x06E5, 0x06E6, 1⟩, ⟨0x06EE, 0x06EF, 1⟩,
  ⟨0x06FA, 0x06FF, 1⟩, ⟨0x0710, 0x0710, 1⟩, ⟨0x0712, 0x072F, 1⟩, ⟨0x074D, 0x07A5, 1⟩,
  ⟨0x07B1, 0x07B1, 1⟩, ⟨0x0860, 0x086A, 1⟩, ⟨0x0870, 0x0887, 1⟩, ⟨0x0889, 0x088E, 1⟩,
  ⟨0x08A0, 0x08C9, 1⟩, ⟨0xFE73, 0xFE73, 1⟩, ⟨0x10D00, 0x10D23, 1⟩, ⟨0x10F30, 0x10F45, 1⟩]

def arabicNumbers : List Span := [
  ⟨0x0660, 0x0669, 1⟩, ⟨0x10D30, 0x10D39, 1⟩]

def numbers : List Span := [
  ⟨0x0030, 0x0039, 1⟩, ⟨0x06F0, 0x06F9, 1⟩]

def neutralSigns : List Span := [
  ⟨0x00B7, 0x00B7, 1⟩, ⟨0x02B9, 0x02BA, 1⟩, ⟨0x02C6, 0x02CF, 1⟩, ⟨0x02EC, 0x02EC, 1⟩,
  ⟨0x0375, 0x0375, 1⟩, ⟨0x2E2F, 0x2E2F, 1⟩, ⟨0x30FB, 0x30FB, 1⟩, ⟨0xA67F, 0xA67F, 1⟩,
  ⟨0xA717, 0xA71F, 1⟩, ⟨0xA788, 0xA788, 1⟩]

/-- Marks that are written over, under or into the letter before them. -/
def nonspacingMarks : List MarkSpan := [
  ⟨⟨0x0300, 0x0314, 1⟩, 230⟩, ⟨⟨0x0315, 0x0315, 1⟩, 232⟩, ⟨⟨0x0316, 0x0319, 1⟩, 220⟩,
  ⟨⟨0x031A, 0x031A, 1⟩, 232⟩, ⟨⟨0x031B, 0x031B, 1⟩, 216⟩, ⟨⟨0x031C, 0x0320, 1⟩, 220⟩,
  ⟨⟨0x0321, 0x0322, 1⟩, 202⟩, ⟨⟨0x0323, 0x0326, 1⟩, 220⟩, ⟨⟨0x0327, 0x0328, 1⟩, 202⟩,
  ⟨⟨0x0329, 0x0333, 1⟩, 220⟩, ⟨⟨0x0334, 0x0338, 1⟩, 1⟩, ⟨⟨0x0339, 0x033C, 1⟩, 220⟩,
  ⟨⟨0x033D, 0x033F, 1⟩, 230⟩, ⟨⟨0x0342, 0x0342, 1⟩, 230⟩, ⟨⟨0x0346, 0x0346, 1⟩, 230⟩,
  ⟨⟨0x0347, 0x0349, 1⟩, 220⟩, ⟨⟨0x034A, 0x034C, 1⟩, 230⟩, ⟨⟨0x034D, 0x034E, 1⟩, 220⟩,
  ⟨⟨0x0350, 0x0352, 1⟩, 230⟩, ⟨⟨0x0353, 0x0356, 1⟩, 220⟩, ⟨⟨0x0357, 0x0357, 1⟩, 230⟩,
  ⟨⟨0x0358, 0x0358, 1⟩, 232⟩, ⟨⟨0x0359, 0x035A, 1⟩, 220⟩, ⟨⟨0x035B, 0x035B, 1⟩, 230⟩,
  ⟨⟨0x035C, 0x035C, 1⟩, 233⟩, ⟨⟨0x035D, 0x035E, 1⟩, 234⟩, ⟨⟨0x035F, 0x035F, 1⟩, 233⟩,
  ⟨⟨0x0360, 0x0361, 1⟩, 234⟩, ⟨⟨0x0362, 0x0362, 1⟩, 233⟩, ⟨⟨0x0363, 0x036F, 1⟩, 230⟩,
  ⟨⟨0x0483, 0x0487, 1⟩, 230⟩, ⟨⟨0x0591, 0x0591, 1⟩, 220⟩, ⟨⟨0x0592, 0x0595, 1⟩, 230⟩,
  ⟨⟨0x0596, 0x0596, 1⟩, 220⟩, ⟨⟨0x0597, 0x0599, 1⟩, 230⟩, ⟨⟨0x059A, 0x059A, 1⟩, 222⟩,
  ⟨⟨0x059B, 0x059B, 1⟩, 220⟩, ⟨⟨0x059C, 0x05A1, 1⟩, 230⟩, ⟨⟨0x05A2, 0x05A7, 1⟩, 220⟩,
  ⟨⟨0x05A8, 0x05A9, 1⟩, 230⟩, ⟨⟨0x05AA, 0x05AA, 1⟩, 220⟩, ⟨⟨0x05AB, 0x05AC, 1⟩, 230⟩,
  ⟨⟨0x05AD, 0x05AD, 1⟩, 222⟩, ⟨⟨0x05AE, 0x05AE, 1⟩, 228⟩, ⟨⟨0x05AF, 0x05AF, 1⟩, 230⟩,
  ⟨⟨0x05B0, 0x05B0, 1⟩, 10⟩, ⟨⟨0x05B1, 0x05B1, 1⟩, 11⟩, ⟨⟨0x05B2, 0x05B2, 1⟩, 12⟩,
  ⟨⟨0x05B3, 0x05B3, 1⟩, 13⟩, ⟨⟨0x05B4, 0x05B4, 1⟩, 14⟩, ⟨⟨0x05B5, 0x05B5, 1⟩, 15⟩,
  ⟨⟨0x05B6, 0x05B6, 1⟩, 16⟩, ⟨⟨0x05B7, 0x05B7, 1⟩, 17⟩, ⟨⟨0x05B8, 0x05B8, 1⟩, 18⟩,
  ⟨⟨0x05B9, 0x05BA, 1⟩, 19⟩, ⟨⟨0x05BB, 0x05BB, 1⟩, 20⟩, ⟨⟨0x05BC, 0x05BC, 1⟩, 21⟩,
  ⟨⟨0x05BD, 0x05BD, 1⟩, 22⟩, ⟨⟨0x05BF, 0x05BF, 1⟩, 23⟩, ⟨⟨0x05C1, 0x05C1, 1⟩, 24⟩,
  ⟨⟨0x05C2, 0x05C2, 1⟩, 25⟩, ⟨⟨0x05C4, 0x05C4, 1⟩, 230⟩, ⟨⟨0x05C5, 0x05C5, 1⟩, 220⟩,
  ⟨⟨0x05C7, 0x05C7, 1⟩, 18⟩, ⟨⟨0x0610, 0x0617, 1⟩, 230⟩, ⟨⟨0x0618, 0x0618, 1⟩, 30⟩,
  ⟨⟨0x0619, 0x0619, 1⟩, 31⟩, ⟨⟨0x061A, 0x061A, 1⟩, 32⟩, ⟨⟨0x064B, 0x064B, 1⟩, 27⟩,
  ⟨⟨0x064C, 0x064C, 1⟩, 28⟩, ⟨⟨0x064D, 0x064D, 1⟩, 29⟩, ⟨⟨0x064E, 0x064E, 1⟩, 30⟩,
  ⟨⟨0x064F, 0x064F, 1⟩, 31⟩, ⟨⟨0x0650, 0x0650, 1⟩, 32⟩, ⟨⟨0x0651, 0x0651, 1⟩, 33⟩,
  ⟨⟨0x0652, 0x0652, 1⟩, 34⟩, ⟨⟨0x0653, 0x0654, 1⟩, 230⟩, ⟨⟨0x0655, 0x0656, 1⟩, 220⟩,
  ⟨⟨0x0657, 0x065B, 1⟩, 230⟩, ⟨⟨0x065C, 0x065C, 1⟩, 220⟩, ⟨⟨0x065D, 0x065E, 1⟩, 230⟩,
  ⟨⟨0x065F, 0x065F, 1⟩, 220⟩, ⟨⟨0x0670, 0x0670, 1⟩, 35⟩, ⟨⟨0x06D6, 0x06DC, 1⟩, 230⟩,
  ⟨⟨0x06DF, 0x06E2, 1⟩, 230⟩, ⟨⟨0x06E3, 0x06E3, 1⟩, 220⟩, ⟨⟨0x06E4, 0x06E4, 1⟩, 230⟩,
  ⟨⟨0x06E7, 0x06E8, 1⟩, 230⟩, ⟨⟨0x06EA, 0x06EA, 1⟩, 220⟩, ⟨⟨0x06EB, 0x06EC, 1⟩, 230⟩,
  ⟨⟨0x06ED, 0x06ED, 1⟩, 220⟩, ⟨⟨0x0711, 0x0711, 1⟩, 36⟩, ⟨⟨0x0730, 0x0730, 1⟩, 230⟩,
  ⟨⟨0x0731, 0x0731, 1⟩, 220⟩, ⟨⟨0x0732, 0x0733, 1⟩, 230⟩, ⟨⟨0x0734, 0x0734, 1⟩, 220⟩,
  ⟨⟨0x0735, 0x0736, 1⟩, 230⟩, ⟨⟨0x0737, 0x0739, 1⟩, 220⟩, ⟨⟨0x073A, 0x073A, 1⟩, 230⟩,
  ⟨⟨0x073B, 0x073C, 1⟩, 220⟩, ⟨⟨0x073D, 0x073D, 1⟩, 230⟩, ⟨⟨0x073E, 0x073E, 1⟩, 220⟩,
  ⟨⟨0x073F, 0x0741, 1⟩, 230⟩, ⟨⟨0x0742, 0x0742, 1⟩, 220⟩, ⟨⟨0x0743, 0x0743, 1⟩, 230⟩,
  ⟨⟨0x0744, 0x0744, 1⟩, 220⟩, ⟨⟨0x0745, 0x0745, 1⟩, 230⟩, ⟨⟨0x0746, 0x0746, 1⟩, 220⟩,
  ⟨⟨0x0747, 0x0747, 1⟩, 230⟩, ⟨⟨0x0748, 0x0748, 1⟩, 220⟩, ⟨⟨0x0749, 0x074A, 1⟩, 230⟩,
  ⟨⟨0x07A6, 0x07B0, 1⟩, 0⟩, ⟨⟨0x07EB, 0x07F1, 1⟩, 230⟩, ⟨⟨0x07F2, 0x07F2, 1⟩, 220⟩,
  ⟨⟨0x07F3, 0x07F3, 1⟩, 230⟩, ⟨⟨0x07FD, 0x07FD, 1⟩, 220⟩, ⟨⟨0x0816, 0x0819, 1⟩, 230⟩,
  ⟨⟨0x081B, 0x0823, 1⟩, 230⟩, ⟨⟨0x0825, 0x0827, 1⟩, 230⟩, ⟨⟨0x0829, 0x082D, 1⟩, 230⟩,
  ⟨⟨0x0859, 0x085B, 1⟩, 220⟩, ⟨⟨0x0898, 0x0898, 1⟩, 230⟩, ⟨⟨0x0899, 0x089B, 1⟩, 220⟩,
  ⟨⟨0x089C, 0x089F, 1⟩, 230⟩, ⟨⟨0x08CA, 0x08CE, 1⟩, 230⟩, ⟨⟨0x08CF, 0x08D3, 1⟩, 220⟩,
  ⟨⟨0x08D4, 0x08E1, 1⟩, 230⟩, ⟨⟨0x08E3, 0x08E3, 1⟩, 220⟩, ⟨⟨0x08E4, 0x08E5, 1⟩, 230⟩,
  ⟨⟨0x08E6, 0x08E6, 1⟩, 220⟩, ⟨⟨0x08E7, 0x08E8, 1⟩, 230⟩, ⟨⟨0x08E9, 0x08E9, 1⟩, 220⟩,
  ⟨⟨0x08EA, 0x08EC, 1⟩, 230⟩, ⟨⟨0x08ED, 0x08EF, 1⟩, 220⟩, ⟨⟨0x08F0, 0x08F0, 1⟩, 27⟩,
  ⟨⟨0x08F1, 0x08F1, 1⟩, 28⟩, ⟨⟨0x08F2, 0x08F2, 1⟩, 29⟩, ⟨⟨0x08F3, 0x08F5, 1⟩, 230⟩,
  ⟨⟨0x08F6, 0x08F6, 1⟩, 220⟩, ⟨⟨0x08F7, 0x08F8, 1⟩, 230⟩, ⟨⟨0x08F9, 0x08FA, 1⟩, 220⟩,
  ⟨⟨0x08FB, 0x08FF, 1⟩, 230⟩, ⟨⟨0x0900, 0x0902, 1⟩, 0⟩, ⟨⟨0x093A, 0x093A, 1⟩, 0⟩,
  ⟨⟨0x093C, 0x093C, 1⟩, 7⟩, ⟨⟨0x0941, 0x0948, 1⟩, 0⟩, ⟨⟨0x094D, 0x094D, 1⟩, 9⟩,
  ⟨⟨0x0951, 0x0951, 1⟩, 230⟩, ⟨⟨0x0952, 0x0952, 1⟩, 220⟩, ⟨⟨0x0953, 0x0954, 1⟩, 230⟩,
  ⟨⟨0x0955, 0x0957, 1⟩, 0⟩, ⟨⟨0x0962, 0x0963, 1⟩, 0⟩, ⟨⟨0x0981, 0x0981, 1⟩, 0⟩,
  ⟨⟨0x09BC, 0x09BC, 1⟩, 7⟩, ⟨⟨0x09C1, 0x09C4, 1⟩, 0⟩, ⟨⟨0x09CD, 0x09CD, 1⟩, 9⟩,
  ⟨⟨0x09E2, 0x09E3, 1⟩, 0⟩, ⟨⟨0x09FE, 0x09FE, 1⟩, 230⟩, ⟨⟨0x0A01, 0x0A02, 1⟩, 0⟩,
  ⟨⟨0x0A3C, 0x0A3C, 1⟩, 7⟩, ⟨⟨0x0A41, 0x0A42, 1⟩, 0⟩, ⟨⟨0x0A47, 0x0A48, 1⟩, 0⟩,
  ⟨⟨0x0A4B, 0x0A4C, 1⟩, 0⟩, ⟨⟨0x0A4D, 0x0A4D, 1⟩, 9⟩, ⟨⟨0x0A51, 0x0A51, 1⟩, 0⟩,
  ⟨⟨0x0A70, 0x0A71, 1⟩, 0⟩, ⟨⟨0x0A75, 0x0A75, 1⟩, 0⟩, ⟨⟨0x0A81, 0x0A82, 1⟩, 0⟩,
  ⟨⟨0x0ABC, 0x0ABC, 1⟩, 7⟩, ⟨⟨0x0AC1, 0x0AC5, 1⟩, 0⟩, ⟨⟨0x0AC7, 0x0AC8, 1⟩, 0⟩,
  ⟨⟨0x0ACD, 0x0ACD, 1⟩, 9⟩, ⟨⟨0x0AE2, 0x0AE3, 1⟩, 0⟩, ⟨⟨0x0AFA, 0x0AFF, 1⟩, 0⟩,
  ⟨⟨0x0B01, 0x0B01, 1⟩, 0⟩, ⟨⟨0x0B3C, 0x0B3C, 1⟩, 7⟩, ⟨⟨0x0B3F, 0x0B3F, 1⟩, 0⟩,
  ⟨⟨0x0B41, 0x0B44, 1⟩, 0⟩, ⟨⟨0x0B4D, 0x0B4D, 1⟩, 9⟩, ⟨⟨0x0B55, 0x0B56, 1⟩, 0⟩,
  ⟨⟨0x0B62, 0x0B63, 1⟩, 0⟩, ⟨⟨0x0B82, 0x0B82, 1⟩, 0⟩, ⟨⟨0x0BC0, 0x0BC0, 1⟩, 0⟩,
  ⟨⟨0x0BCD, 0x0BCD, 1⟩, 9⟩, ⟨⟨0x0C00, 0x0C00, 1⟩, 0⟩, ⟨⟨0x0C04, 0x0C04, 1⟩, 0⟩,
  ⟨⟨0x0C3C, 0x0C3C, 1⟩, 7⟩, ⟨⟨0x0C3E, 0x0C40, 1⟩, 0⟩, ⟨⟨0x0C46, 0x0C48, 1⟩, 0⟩,
  ⟨⟨0x0C4A, 0x0C4C, 1⟩, 0⟩, ⟨⟨0x0C4D, 0x0C4D, 1⟩, 9⟩, ⟨⟨0x0C55, 0x0C55, 1⟩, 84⟩,
  ⟨⟨0x0C56, 0x0C56, 1⟩, 91⟩, ⟨⟨0x0C62, 0x0C63, 1⟩, 0⟩, ⟨⟨0x0C81, 0x0C81, 1⟩, 0⟩,
  ⟨⟨0x0CBC, 0x0CBC, 1⟩, 7⟩, ⟨⟨0x0CCC, 0x0CCC, 1⟩, 0⟩, ⟨⟨0x0CCD, 0x0CCD, 1⟩, 9⟩,
  ⟨⟨0x0CE2, 0x0CE3, 1⟩, 0⟩, ⟨⟨0x0D00, 0x0D01, 1⟩, 0⟩, ⟨⟨0x0D3B, 0x0D3C, 1⟩, 9⟩,
  ⟨⟨0x0D41, 0x0D44, 1⟩, 0⟩, ⟨⟨0x0D4D, 0x0D4D, 1⟩, 9⟩, ⟨⟨0x0D62, 0x0D63, 1⟩, 0⟩,
  ⟨⟨0x0D81, 0x0D81, 1⟩, 0⟩, ⟨⟨0x0DCA, 0x0DCA, 1⟩, 9⟩, ⟨⟨0x0DD2, 0x0DD4, 1⟩, 0⟩,
  ⟨⟨0x0DD6, 0x0DD6, 1⟩, 0⟩, ⟨⟨0x0E31, 0x0E31, 1⟩, 0⟩, ⟨⟨0x0E34, 0x0E37, 1⟩, 0⟩,
  ⟨⟨0x0E38, 0x0E39, 1⟩, 103⟩, ⟨⟨0x0E3A, 0x0E3A, 1⟩, 9⟩, ⟨⟨0x0E47, 0x0E47, 1⟩, 0⟩,
  ⟨⟨0x0E48, 0x0E4B, 1⟩, 107⟩, ⟨⟨0x0E4C, 0x0E4E, 1⟩, 0⟩, ⟨⟨0x0EB1, 0x0EB1, 1⟩, 0⟩,
  ⟨⟨0x0EB4, 0x0EB7, 1⟩, 0⟩, ⟨⟨0x0EB8, 0x0EB9, 1⟩, 118⟩, ⟨⟨0x0EBA, 0x0EBA, 1⟩, 9⟩,
  ⟨⟨0x0EBB, 0x0EBC, 1⟩, 0⟩, ⟨⟨0x0EC8, 0x0ECB, 1⟩, 122⟩, ⟨⟨0x0ECC, 0x0ECD, 1⟩, 0⟩,
  ⟨⟨0x0F18, 0x0F19, 1⟩, 220⟩, ⟨⟨0x0F35, 0x0F35, 1⟩, 220⟩, ⟨⟨0x0F37, 0x0F37, 1⟩, 220⟩,
  ⟨⟨0x0F39, 0x0F39, 1⟩, 216⟩, ⟨⟨0x0F71, 0x0F71, 1⟩, 129⟩, ⟨⟨0x0F72, 0x0F72, 1⟩, 130⟩,
  ⟨⟨0x0F74, 0x0F74, 1⟩, 132⟩, ⟨⟨0x0F7A, 0x0F7D, 1⟩, 130⟩, ⟨⟨0x0F7E, 0x0F7E, 1⟩, 0⟩,
  ⟨⟨0x0F80, 0x0F80, 1⟩, 130⟩, ⟨⟨0x0F82, 0x0F83, 1⟩, 230⟩, ⟨⟨0x0F84, 0x0F84, 1⟩, 9⟩,
  ⟨⟨0x0F86, 0x0F87, 1⟩, 230⟩, ⟨⟨0x0F8D, 0x0F92, 1⟩, 0⟩, ⟨⟨0x0F94, 0x0F97, 1⟩, 0⟩,
  ⟨⟨0x0F99, 0x0F9C, 1⟩, 0⟩, ⟨⟨0x0F9E, 0x0FA1, 1⟩, 0⟩, ⟨⟨0x0FA3, 0x0FA6, 1⟩, 0⟩,
  ⟨⟨0x0FA8, 0x0FAB, 1⟩, 0⟩, ⟨⟨0x0FAD, 0x0FB8, 1⟩, 0⟩, ⟨⟨0x0FBA, 0x0FBC, 1⟩, 0⟩,
  ⟨⟨0x0FC6, 0x0FC6, 1⟩, 220⟩, ⟨⟨0x102D, 0x1030, 1⟩, 0⟩, ⟨⟨0x1032, 0x1036, 1⟩, 0⟩,
  ⟨⟨0x1037, 0x1037, 1⟩, 7⟩, ⟨⟨0x1039, 0x103A, 1⟩, 9⟩, ⟨⟨0x103D, 0x103E, 1⟩, 0⟩,
  ⟨⟨0x1058, 0x1059, 1⟩, 0⟩, ⟨⟨0x105E, 0x1060, 1⟩, 0⟩, ⟨⟨0x1071, 0x1074, 1⟩, 0⟩,
  ⟨⟨0x1082, 0x1082, 1⟩, 0⟩, ⟨⟨0x1085, 0x1086, 1⟩, 0⟩, ⟨⟨0x108D, 0x108D, 1⟩, 220⟩,
  ⟨⟨0x109D, 0x109D, 1⟩, 0⟩, ⟨⟨0x135D, 0x135F, 1⟩, 230⟩, ⟨⟨0x1712, 0x1713, 1⟩, 0⟩,
  ⟨⟨0x1714, 0x1714, 1⟩, 9⟩, ⟨⟨0x1732, 0x1733, 1⟩, 0⟩, ⟨⟨0x1752, 0x1753, 1⟩, 0⟩,
  ⟨⟨0x1772, 0x1773, 1⟩, 0⟩, ⟨⟨0x17B7, 0x17BD, 1⟩, 0⟩, ⟨⟨0x17C6, 0x17C6, 1⟩, 0⟩,
  ⟨⟨0x17C9, 0x17D1, 1⟩, 0⟩, ⟨⟨0x17D2, 0x17D2, 1⟩, 9⟩, ⟨⟨0x17D3, 0x17D3, 1⟩, 0⟩,
  ⟨⟨0x17DD, 0x17DD, 1⟩, 230⟩, ⟨⟨0x1885, 0x1886, 1⟩, 0⟩, ⟨⟨0x18A9, 0x18A9, 1⟩, 228⟩,
  ⟨⟨0x1920, 0x1922, 1⟩, 0⟩, ⟨⟨0x1927, 0x1928, 1⟩, 0⟩, ⟨⟨0x1932, 0x1932, 1⟩, 0⟩,
  ⟨⟨0x1939, 0x1939, 1⟩, 222⟩, ⟨⟨0x193A, 0x193A, 1⟩, 230⟩, ⟨⟨0x193B, 0x193B, 1⟩, 220⟩,
  ⟨⟨0x1A17, 0x1A17, 1⟩, 230⟩, ⟨⟨0x1A18, 0x1A18, 1⟩, 220⟩, ⟨⟨0x1A1B, 0x1A1B, 1⟩, 0⟩,
  ⟨⟨0x1A56, 0x1A56, 1⟩, 0⟩, ⟨⟨0x1A58, 0x1A5E, 1⟩, 0⟩, ⟨⟨0x1A60, 0x1A60, 1⟩, 9⟩,
  ⟨⟨0x1A62, 0x1A62, 1⟩, 0⟩, ⟨⟨0x1A65, 0x1A6C, 1⟩, 0⟩, ⟨⟨0x1A73, 0x1A74, 1⟩, 0⟩,
  ⟨⟨0x1A75, 0x1A7C, 1⟩, 230⟩, ⟨⟨0x1A7F, 0x1A7F, 1⟩, 220⟩, ⟨⟨0x1AB0, 0x1AB4, 1⟩, 230⟩,
  ⟨⟨0x1AB5, 0x1ABA, 1⟩, 220⟩, ⟨⟨0x1ABB, 0x1ABC, 1⟩, 230⟩, ⟨⟨0x1ABD, 0x1ABD, 1⟩, 220⟩,
  ⟨⟨0x1ABF, 0x1AC0, 1⟩, 220⟩, ⟨⟨0x1AC1, 0x1AC2, 1⟩, 230⟩, ⟨⟨0x1AC3, 0x1AC4, 1⟩, 220⟩,
  ⟨⟨0x1AC5, 0x1AC9, 1⟩, 230⟩, ⟨⟨0x1ACA, 0x1ACA, 1⟩, 220⟩, ⟨⟨0x1ACB, 0x1ACE, 1⟩, 230⟩,
  ⟨⟨0x1B00, 0x1B03, 1⟩, 0⟩, ⟨⟨0x1B34, 0x1B34, 1⟩, 7⟩, ⟨⟨0x1B36, 0x1B3A, 1⟩, 0⟩,
  ⟨⟨0x1B3C, 0x1B3C, 1⟩, 0⟩, ⟨⟨0x1B42, 0x1B42, 1⟩, 0⟩, ⟨⟨0x1B6B, 0x1B6B, 1⟩, 230⟩,
  ⟨⟨0x1B6C, 0x1B6C, 1⟩, 220⟩, ⟨⟨0x1B6D, 0x1B73, 1⟩, 230⟩, ⟨⟨0x1B80, 0x1B81, 1⟩, 0⟩,
  ⟨⟨0x1BA2, 0x1BA5, 1⟩, 0⟩, ⟨⟨0x1BA8, 0x1BA9, 1⟩, 0⟩, ⟨⟨0x1BAB, 0x1BAB, 1⟩, 9⟩,
  ⟨⟨0x1BAC, 0x1BAD, 1⟩, 0⟩, ⟨⟨0x1BE6, 0x1BE6, 1⟩, 7⟩, ⟨⟨0x1BE8, 0x1BE9, 1⟩, 0⟩,
  ⟨⟨0x1BED, 0x1BED, 1⟩, 0⟩, ⟨⟨0x1BEF, 0x1BF1, 1⟩, 0⟩, ⟨⟨0x1C2C, 0x1C33, 1⟩, 0⟩,
  ⟨⟨0x1C36, 0x1C36, 1⟩, 0⟩, ⟨⟨0x1C37, 0x1C37, 1⟩, 7⟩, ⟨⟨0x1CD0, 0x1CD2, 1⟩, 230⟩,
  ⟨⟨0x1CD4, 0x1CD4, 1⟩, 1⟩, ⟨⟨0x1CD5, 0x1CD9, 1⟩, 220⟩, ⟨⟨0x1CDA, 0x1CDB, 1⟩, 230⟩,
  ⟨⟨0x1CDC, 0x1CDF, 1⟩, 220⟩, ⟨⟨0x1CE0, 0x1CE0, 1⟩, 230⟩, ⟨⟨0x1CE2, 0x1CE8, 1⟩, 1⟩,
  ⟨⟨0x1CED, 0x1CED, 1⟩, 220⟩, ⟨⟨0x1CF4, 0x1CF4, 1⟩, 230⟩, ⟨⟨0x1CF8, 0x1CF9, 1⟩, 230⟩,
  ⟨⟨0x1DC0, 0x1DC1, 1⟩, 230⟩, ⟨⟨0x1DC2, 0x1DC2, 1⟩, 220⟩, ⟨⟨0x1DC3, 0x1DC9, 1⟩, 230⟩,
  ⟨⟨0x1DCA, 0x1DCA, 1⟩, 220⟩, ⟨⟨0x1DCB, 0x1DCC, 1⟩, 230⟩, ⟨⟨0x1DCD, 0x1DCD, 1⟩, 234⟩,
  ⟨⟨0x1DCE, 0x1DCE, 1⟩, 214⟩, ⟨⟨0x1DCF, 0x1DCF, 1⟩, 220⟩, ⟨⟨0x1DD0, 0x1DD0, 1⟩, 202⟩,
  ⟨⟨0x1DD1, 0x1DF5, 1⟩, 230⟩, ⟨⟨0x1DF6, 0x1DF6, 1⟩, 232⟩, ⟨⟨0x1DF7, 0x1DF8, 1⟩, 228⟩,
  ⟨⟨0x1DF9, 0x1DF9, 1⟩, 220⟩, ⟨⟨0x1DFA, 0x1DFA, 1⟩, 218⟩, ⟨⟨0x1DFB, 0x1DFB, 1⟩, 230⟩,
  ⟨⟨0x1DFC, 0x1DFC, 1⟩, 233⟩, ⟨⟨0x1DFD, 0x1DFD, 1⟩, 220⟩, ⟨⟨0x1DFE, 0x1DFE, 1⟩, 230⟩,
  ⟨⟨0x1DFF, 0x1DFF, 1⟩, 220⟩, ⟨⟨0x2CEF, 0x2CF1, 1⟩, 230⟩, ⟨⟨0x2D7F, 0x2D7F, 1⟩, 9⟩,
  ⟨⟨0x2DE0, 0x2DFF, 1⟩, 230⟩, ⟨⟨0x302A, 0x302A, 1⟩, 218⟩, ⟨⟨0x302B, 0x302B, 1⟩, 228⟩,
  ⟨⟨0x302C, 0x302C, 1⟩, 232⟩, ⟨⟨0x302D, 0x302D, 1⟩, 222⟩, ⟨⟨0x3099, 0x309A, 1⟩, 8⟩,
  ⟨⟨0xA66F, 0xA66F, 1⟩, 230⟩, ⟨⟨0xA674, 0xA67D, 1⟩, 230⟩, ⟨⟨0xA69E, 0xA69F, 1⟩, 230⟩,
  ⟨⟨0xA6F0, 0xA6F1, 1⟩, 230⟩, ⟨⟨0xA802, 0xA802, 1⟩, 0⟩, ⟨⟨0xA806, 0xA806, 1⟩, 9⟩,
  ⟨⟨0xA80B, 0xA80B, 1⟩, 0⟩, ⟨⟨0xA825, 0xA826, 1⟩, 0⟩, ⟨⟨0xA82C, 0xA82C, 1⟩, 9⟩,
  ⟨⟨0xA8C4, 0xA8C4, 1⟩, 9⟩, ⟨⟨0xA8C5, 0xA8C5, 1⟩, 0⟩, ⟨⟨0xA8E0, 0xA8F1, 1⟩, 230⟩,
  ⟨⟨0xA8FF, 0xA8FF, 1⟩, 0⟩, ⟨⟨0xA926, 0xA92A, 1⟩, 0⟩, ⟨⟨0xA92B, 0xA92D, 1⟩, 220⟩,
  ⟨⟨0xA947, 0xA951, 1⟩, 0⟩, ⟨⟨0xA980, 0xA982, 1⟩, 0⟩, ⟨⟨0xA9B3, 0xA9B3, 1⟩, 7⟩,
  ⟨⟨0xA9B6, 0xA9B9, 1⟩, 0⟩, ⟨⟨0xA9BC, 0xA9BD, 1⟩, 0⟩, ⟨⟨0xA9E5, 0xA9E5, 1⟩, 0⟩,
  ⟨⟨0xAA29, 0xAA2E, 1⟩, 0⟩, ⟨⟨0xAA31, 0xAA32, 1⟩, 0⟩, ⟨⟨0xAA35, 0xAA36, 1⟩, 0⟩,
  ⟨⟨0xAA43, 0xAA43, 1⟩, 0⟩, ⟨⟨0xAA4C, 0xAA4C, 1⟩, 0⟩, ⟨⟨0xAA7C, 0xAA7C, 1⟩, 0⟩,
  ⟨⟨0xAAB0, 0xAAB0, 1⟩, 230⟩, ⟨⟨0xAAB2, 0xAAB3, 1⟩, 230⟩, ⟨⟨0xAAB4, 0xAAB4, 1⟩, 220⟩,
  ⟨⟨0xAAB7, 0xAAB8, 1⟩, 230⟩, ⟨⟨0xAABE, 0xAABF, 1⟩, 230⟩, ⟨⟨0xAAC1, 0xAAC1, 1⟩, 230⟩,
  ⟨⟨0xAAEC, 0xAAED, 1⟩, 0⟩, ⟨⟨0xAAF6, 0xAAF6, 1⟩, 9⟩, ⟨⟨0xABE5, 0xABE5, 1⟩, 0⟩,
  ⟨⟨0xABE8, 0xABE8, 1⟩, 0⟩, ⟨⟨0xABED, 0xABED, 1⟩, 9⟩, ⟨⟨0xFB1E, 0xFB1E, 1⟩, 26⟩,
  ⟨⟨0xFE20, 0xFE26, 1⟩, 230⟩, ⟨⟨0xFE27, 0xFE2D, 1⟩, 220⟩, ⟨⟨0xFE2E, 0xFE2F, 1⟩, 230⟩,
  ⟨⟨0x101FD, 0x101FD, 1⟩, 220⟩, ⟨⟨0x102E0, 0x102E0, 1⟩, 220⟩, ⟨⟨0x10376, 0x1037A, 1⟩, 230⟩,
  ⟨⟨0x10A01, 0x10A03, 1⟩, 0⟩, ⟨⟨0x10A05, 0x10A06, 1⟩, 0⟩, ⟨⟨0x10A0C, 0x10A0C, 1⟩, 0⟩,
  ⟨⟨0x10A0D, 0x10A0D, 1⟩, 220⟩, ⟨⟨0x10A0E, 0x10A0E, 1⟩, 0⟩, ⟨⟨0x10A0F, 0x10A0F, 1⟩, 230⟩,
  ⟨⟨0x10A38, 0x10A38, 1⟩, 230⟩, ⟨⟨0x10A39, 0x10A39, 1⟩, 1⟩, ⟨⟨0x10A3A, 0x10A3A, 1⟩, 220⟩,
  ⟨⟨0x10A3F, 0x10A3F, 1⟩, 9⟩, ⟨⟨0x10AE5, 0x10AE5, 1⟩, 230⟩, ⟨⟨0x10AE6, 0x10AE6, 1⟩, 220⟩,
  ⟨⟨0x10D24, 0x10D27, 1⟩, 230⟩, ⟨⟨0x10EAB, 0x10EAC, 1⟩, 230⟩, ⟨⟨0x10F46, 0x10F47, 1⟩, 220⟩,
  ⟨⟨0x10F48, 0x10F4A, 1⟩, 230⟩, ⟨⟨0x10F4B, 0x10F4B, 1⟩, 220⟩, ⟨⟨0x10F4C, 0x10F4C, 1⟩, 230⟩,
  ⟨⟨0x10F4D, 0x10F50, 1⟩, 220⟩, ⟨⟨0x10F82, 0x10F82, 1⟩, 230⟩, ⟨⟨0x10F83, 0x10F83, 1⟩, 220⟩,
  ⟨⟨0x10F84, 0x10F84, 1⟩, 230⟩, ⟨⟨0x10F85, 0x10F85, 1⟩, 220⟩, ⟨⟨0x11001, 0x11001, 1⟩, 0⟩,
  ⟨⟨0x11038, 0x11045, 1⟩, 0⟩, ⟨⟨0x11046, 0x11046, 1⟩, 9⟩, ⟨⟨0x11070, 0x11070, 1⟩, 9⟩,
  ⟨⟨0x11073, 0x11074, 1⟩, 0⟩, ⟨⟨0x1107F, 0x1107F, 1⟩, 9⟩, ⟨⟨0x11080, 0x11081, 1⟩, 0⟩,
  ⟨⟨0x110B3, 0x110B6, 1⟩, 0⟩, ⟨⟨0x110B9, 0x110B9, 1⟩, 9⟩, ⟨⟨0x110BA, 0x110BA, 1⟩, 7⟩,
  ⟨⟨0x110C2, 0x110C2, 1⟩, 0⟩, ⟨⟨0x11100, 0x11102, 1⟩, 230⟩, ⟨⟨0x11127, 0x1112B, 1⟩, 0⟩,
  ⟨⟨0x1112D, 0x11132, 1⟩, 0⟩, ⟨⟨0x11133, 0x11134, 1⟩, 9⟩, ⟨⟨0x11173, 0x11173, 1⟩, 7⟩,
  ⟨⟨0x11180, 0x11181, 1⟩, 0⟩, ⟨⟨0x111B6, 0x111BE, 1⟩, 0⟩, ⟨⟨0x111C9, 0x111C9, 1⟩, 0⟩,
  ⟨⟨0x111CA, 0x111CA, 1⟩, 7⟩, ⟨⟨0x111CB, 0x111CC, 1⟩, 0⟩, ⟨⟨0x111CF, 0x111CF, 1⟩, 0⟩,
  ⟨⟨0x1122F, 0x11231, 1⟩, 0⟩, ⟨⟨0x11234, 0x11234, 1⟩, 0⟩, ⟨⟨0x11236, 0x11236, 1⟩, 7⟩,
  ⟨⟨0x11237, 0x11237, 1⟩, 0⟩, ⟨⟨0x1123E, 0x1123E, 1⟩, 0⟩, ⟨⟨0x112DF, 0x112DF, 1⟩, 0⟩,
  ⟨⟨0x112E3, 0x112E8, 1⟩, 0⟩, ⟨⟨0x112E9, 0x112E9, 1⟩, 7⟩, ⟨⟨0x112EA, 0x112EA, 1⟩, 9⟩,
  ⟨⟨0x11300, 0x11301, 1⟩, 0⟩, ⟨⟨0x1133B, 0x1133C, 1⟩, 7⟩, ⟨⟨0x11340, 0x11340, 1⟩, 0⟩,
  ⟨⟨0x11366, 0x1136C, 1⟩, 230⟩, ⟨⟨0x11370, 0x11374, 1⟩, 230⟩, ⟨⟨0x11438, 0x1143F, 1⟩, 0⟩,
  ⟨⟨0x11442, 0x11442, 1⟩, 9⟩, ⟨⟨0x11443, 0x11444, 1⟩, 0⟩, ⟨⟨0x11446, 0x11446, 1⟩, 7⟩,
  ⟨⟨0x1145E, 0x1145E, 1⟩, 230⟩, ⟨⟨0x114B3, 0x114B8, 1⟩, 0⟩, ⟨⟨0x114BA, 0x114BA, 1⟩, 0⟩,
  ⟨⟨0x114BF, 0x114C0, 1⟩, 0⟩, ⟨⟨0x114C2, 0x114C2, 1⟩, 9⟩, ⟨⟨0x114C3, 0x114C3, 1⟩, 7⟩,
  ⟨⟨0x115B2, 0x115B5, 1⟩, 0⟩, ⟨⟨0x115BC, 0x115BD, 1⟩, 0⟩, ⟨⟨0x115BF, 0x115BF, 1⟩, 9⟩,
  ⟨⟨0x115C0, 0x115C0, 1⟩, 7⟩, ⟨⟨0x115DC, 0x115DD, 1⟩, 0⟩, ⟨⟨0x11633, 0x1163A, 1⟩, 0⟩,
  ⟨⟨0x1163D, 0x1163D, 1⟩, 0⟩, ⟨⟨0x1163F, 0x1163F, 1⟩, 9⟩, ⟨⟨0x11640, 0x11640, 1⟩, 0⟩,
  ⟨⟨0x116AB, 0x116AB, 1⟩, 0⟩, ⟨⟨0x116AD, 0x116AD, 1⟩, 0⟩, ⟨⟨0x116B0, 0x116B5, 1⟩, 0⟩,
  ⟨⟨0x116B7, 0x116B7, 1⟩, 7⟩, ⟨⟨0x1171D, 0x1171F, 1⟩, 0⟩, ⟨⟨0x11722, 0x11725, 1⟩, 0⟩,
  ⟨⟨0x11727, 0x1172A, 1⟩, 0⟩, ⟨⟨0x1172B, 0x1172B, 1⟩, 9⟩, ⟨⟨0x1182F, 0x11837, 1⟩, 0⟩,
  ⟨⟨0x11839, 0x11839, 1⟩, 9⟩, ⟨⟨0x1183A, 0x1183A, 1⟩, 7⟩, ⟨⟨0x1193B, 0x1193C, 1⟩, 0⟩,
  ⟨⟨0x1193E, 0x1193E, 1⟩, 9⟩, ⟨⟨0x11943, 0x11943, 1⟩, 7⟩, ⟨⟨0x119D4, 0x119D7, 1⟩, 0⟩,
  ⟨⟨0x119DA, 0x119DB, 1⟩, 0⟩, ⟨⟨0x119E0, 0x119E0, 1⟩, 9⟩, ⟨⟨0x11A01, 0x11A06, 1⟩, 0⟩,
  ⟨⟨0x11A09, 0x11A0A, 1⟩, 0⟩, ⟨⟨0x11A33, 0x11A33, 1⟩, 0⟩, ⟨⟨0x11A34, 0x11A34, 1⟩, 9⟩,
  ⟨⟨0x11A35, 0x11A38, 1⟩, 0⟩, ⟨⟨0x11A3B, 0x11A3E, 1⟩, 0⟩, ⟨⟨0x11A47, 0x11A47, 1⟩, 9⟩,
  ⟨⟨0x11A51, 0x11A56, 1⟩, 0⟩, ⟨⟨0x11A59, 0x11A5B, 1⟩, 0⟩, ⟨⟨0x11A8A, 0x11A96, 1⟩, 0⟩,
  ⟨⟨0x11A98, 0x11A98, 1⟩, 0⟩, ⟨⟨0x11A99, 0x11A99, 1⟩, 9⟩, ⟨⟨0x11C30, 0x11C36, 1⟩, 0⟩,
  ⟨⟨0x11C38, 0x11C3D, 1⟩, 0⟩, ⟨⟨0x11C92, 0x11CA7, 1⟩, 0⟩, ⟨⟨0x11CAA, 0x11CB0, 1⟩, 0⟩,
  ⟨⟨0x11CB2, 0x11CB3, 1⟩, 0⟩, ⟨⟨0x11CB5, 0x11CB6, 1⟩, 0⟩, ⟨⟨0x11D31, 0x11D36, 1⟩, 0⟩,
  ⟨⟨0x11D3A, 0x11D3A, 1⟩, 0⟩, ⟨⟨0x11D3C, 0x11D3D, 1⟩, 0⟩, ⟨⟨0x11D3F, 0x11D41, 1⟩, 0⟩,
  ⟨⟨0x11D42, 0x11D42, 1⟩, 7⟩, ⟨⟨0x11D43, 0x11D43, 1⟩, 0⟩, ⟨⟨0x11D44, 0x11D45, 1⟩, 9⟩,
  ⟨⟨0x11D47, 0x11D47, 1⟩, 0⟩, ⟨⟨0x11D90, 0x11D91, 1⟩, 0⟩, ⟨⟨0x11D95, 0x11D95, 1⟩, 0⟩,
  ⟨⟨0x11D97, 0x11D97, 1⟩, 9⟩, ⟨⟨0x11EF3, 0x11EF4, 1⟩, 0⟩, ⟨⟨0x16AF0, 0x16AF4, 1⟩, 1⟩,
  ⟨⟨0x16B30, 0x16B36, 1⟩, 230⟩, ⟨⟨0x16F4F, 0x16F4F, 1⟩, 0⟩, ⟨⟨0x16F8F, 0x16F92, 1⟩, 0⟩,
  ⟨⟨0x16FE4, 0x16FE4, 1⟩, 0⟩, ⟨⟨0x1BC9D, 0x1BC9D, 1⟩, 0⟩, ⟨⟨0x1BC9E, 0x1BC9E, 1⟩, 1⟩,
  ⟨⟨0x1CF00, 0x1CF2D, 1⟩, 0⟩, ⟨⟨0x1CF30, 0x1CF46, 1⟩, 0⟩, ⟨⟨0x1DA00, 0x1DA36, 1⟩, 0⟩,
  ⟨⟨0x1DA3B, 0x1DA6C, 1⟩, 0⟩, ⟨⟨0x1DA75, 0x1DA75, 1⟩, 0⟩, ⟨⟨0x1DA84, 0x1DA84, 1⟩, 0⟩,
  ⟨⟨0x1DA9B, 0x1DA9F, 1⟩, 0⟩, ⟨⟨0x1DAA1, 0x1DAAF, 1⟩, 0⟩, ⟨⟨0x1E000, 0x1E006, 1⟩, 230⟩,
  ⟨⟨0x1E008, 0x1E018, 1⟩, 230⟩, ⟨⟨0x1E01B, 0x1E021, 1⟩, 230⟩, ⟨⟨0x1E023, 0x1E024, 1⟩, 230⟩,
  ⟨⟨0x1E026, 0x1E02A, 1⟩, 230⟩, ⟨⟨0x1E130, 0x1E136, 1⟩, 230⟩, ⟨⟨0x1E2AE, 0x1E2AE, 1⟩, 230⟩,
  ⟨⟨0x1E2EC, 0x1E2EF, 1⟩, 230⟩, ⟨⟨0x1E8D0, 0x1E8D6, 1⟩, 220⟩, ⟨⟨0x1E944, 0x1E949, 1⟩, 230⟩,
  ⟨⟨0x1E94A, 0x1E94A, 1⟩, 7⟩]

/-- Marks that take room of their own. -/
def spacingMarks : List MarkSpan := [
  ⟨⟨0x0903, 0x0903, 1⟩, 0⟩, ⟨⟨0x093B, 0x093B, 1⟩, 0⟩, ⟨⟨0x093E, 0x0940, 1⟩, 0⟩,
  ⟨⟨0x0949, 0x094C, 1⟩, 0⟩, ⟨⟨0x094E, 0x094F, 1⟩, 0⟩, ⟨⟨0x0982, 0x0983, 1⟩, 0⟩,
  ⟨⟨0x09BE, 0x09C0, 1⟩, 0⟩, ⟨⟨0x09C7, 0x09C8, 1⟩, 0⟩, ⟨⟨0x09CB, 0x09CC, 1⟩, 0⟩,
  ⟨⟨0x09D7, 0x09D7, 1⟩, 0⟩, ⟨⟨0x0A03, 0x0A03, 1⟩, 0⟩, ⟨⟨0x0A3E, 0x0A40, 1⟩, 0⟩,
  ⟨⟨0x0A83, 0x0A83, 1⟩, 0⟩, ⟨⟨0x0ABE, 0x0AC0, 1⟩, 0⟩, ⟨⟨0x0AC9, 0x0AC9, 1⟩, 0⟩,
  ⟨⟨0x0ACB, 0x0ACC, 1⟩, 0⟩, ⟨⟨0x0B02, 0x0B03, 1⟩, 0⟩, ⟨⟨0x0B3E, 0x0B3E, 1⟩, 0⟩,
  ⟨⟨0x0B40, 0x0B40, 1⟩, 0⟩, ⟨⟨0x0B47, 0x0B48, 1⟩, 0⟩, ⟨⟨0x0B4B, 0x0B4C, 1⟩, 0⟩,
  ⟨⟨0x0B57, 0x0B57, 1⟩, 0⟩, ⟨⟨0x0BBE, 0x0BBF, 1⟩, 0⟩, ⟨⟨0x0BC1, 0x0BC2, 1⟩, 0⟩,
  ⟨⟨0x0BC6, 0x0BC8, 1⟩, 0⟩, ⟨⟨0x0BCA, 0x0BCC, 1⟩, 0⟩, ⟨⟨0x0BD7, 0x0BD7, 1⟩, 0⟩,
  ⟨⟨0x0C01, 0x0C03, 1⟩, 0⟩, ⟨⟨0x0C41, 0x0C44, 1⟩, 0⟩, ⟨⟨0x0C82, 0x0C83, 1⟩, 0⟩,
  ⟨⟨0x0CBE, 0x0CC4, 1⟩, 0⟩, ⟨⟨0x0CC6, 0x0CC8, 1⟩, 0⟩, ⟨⟨0x0CCA, 0x0CCB, 1⟩, 0⟩,
  ⟨⟨0x0CD5, 0x0CD6, 1⟩, 0⟩, ⟨⟨0x0D02, 0x0D03, 1⟩, 0⟩, ⟨⟨0x0D3E, 0x0D40, 1⟩, 0⟩,
  ⟨⟨0x0D46, 0x0D48, 1⟩, 0⟩, ⟨⟨0x0D4A, 0x0D4C, 1⟩, 0⟩, ⟨⟨0x0D57, 0x0D57, 1⟩, 0⟩,
  ⟨⟨0x0D82, 0x0D83, 1⟩, 0⟩, ⟨⟨0x0DCF, 0x0DD1, 1⟩, 0⟩, ⟨⟨0x0DD8, 0x0DDF, 1⟩, 0⟩,
  ⟨⟨0x0DF2, 0x0DF3, 1⟩, 0⟩, ⟨⟨0x0F3E, 0x0F3F, 1⟩, 0⟩, ⟨⟨0x0F7F, 0x0F7F, 1⟩, 0⟩,
  ⟨⟨0x102B, 0x102C, 1⟩, 0⟩, ⟨⟨0x1031, 0x1031, 1⟩, 0⟩, ⟨⟨0x1038, 0x1038, 1⟩, 0⟩,
  ⟨⟨0x103B, 0x103C, 1⟩, 0⟩, ⟨⟨0x1056, 0x1057, 1⟩, 0⟩, ⟨⟨0x1062, 0x1064, 1⟩, 0⟩,
  ⟨⟨0x1067, 0x106D, 1⟩, 0⟩, ⟨⟨0x1083, 0x1084, 1⟩, 0⟩, ⟨⟨0x1087, 0x108C, 1⟩, 0⟩,
  ⟨⟨0x108F, 0x108F, 1⟩, 0⟩, ⟨⟨0x109A, 0x109C, 1⟩, 0⟩, ⟨⟨0x1715, 0x1715, 1⟩, 9⟩,
  ⟨⟨0x1734, 0x1734, 1⟩, 9⟩, ⟨⟨0x17B6, 0x17B6, 1⟩, 0⟩, ⟨⟨0x17BE, 0x17C5, 1⟩, 0⟩,
  ⟨⟨0x17C7, 0x17C8, 1⟩, 0⟩, ⟨⟨0x1923, 0x1926, 1⟩, 0⟩, ⟨⟨0x1929, 0x192B, 1⟩, 0⟩,
  ⟨⟨0x1930, 0x1931, 1⟩, 0⟩, ⟨⟨0x1933, 0x1938, 1⟩, 0⟩, ⟨⟨0x1A19, 0x1A1A, 1⟩, 0⟩,
  ⟨⟨0x1A55, 0x1A55, 1⟩, 0⟩, ⟨⟨0x1A57, 0x1A57, 1⟩, 0⟩, ⟨⟨0x1A61, 0x1A61, 1⟩, 0⟩,
  ⟨⟨0x1A63, 0x1A64, 1⟩, 0⟩, ⟨⟨0x1A6D, 0x1A72, 1⟩, 0⟩, ⟨⟨0x1B04, 0x1B04, 1⟩, 0⟩,
  ⟨⟨0x1B35, 0x1B35, 1⟩, 0⟩, ⟨⟨0x1B3B, 0x1B3B, 1⟩, 0⟩, ⟨⟨0x1B3D, 0x1B41, 1⟩, 0⟩,
  ⟨⟨0x1B43, 0x1B43, 1⟩, 0⟩, ⟨⟨0x1B44, 0x1B44, 1⟩, 9⟩, ⟨⟨0x1B82, 0x1B82, 1⟩, 0⟩,
  ⟨⟨0x1BA1, 0x1BA1, 1⟩, 0⟩, ⟨⟨0x1BA6, 0x1BA7, 1⟩, 0⟩, ⟨⟨0x1BAA, 0x1BAA, 1⟩, 9⟩,
  ⟨⟨0x1BE7, 0x1BE7, 1⟩, 0⟩, ⟨⟨0x1BEA, 0x1BEC, 1⟩, 0⟩, ⟨⟨0x1BEE, 0x1BEE, 1⟩, 0⟩,
  ⟨⟨0x1BF2, 0x1BF3, 1⟩, 9⟩, ⟨⟨0x1C24, 0x1C2B, 1⟩, 0⟩, ⟨⟨0x1C34, 0x1C35, 1⟩, 0⟩,
  ⟨⟨0x1CE1, 0x1CE1, 1⟩, 0⟩, ⟨⟨0x1CF7, 0x1CF7, 1⟩, 0⟩, ⟨⟨0xA823, 0xA824, 1⟩, 0⟩,
  ⟨⟨0xA827, 0xA827, 1⟩, 0⟩, ⟨⟨0xA880, 0xA881, 1⟩, 0⟩, ⟨⟨0xA8B4, 0xA8C3, 1⟩, 0⟩,
  ⟨⟨0xA952, 0xA952, 1⟩, 0⟩, ⟨⟨0xA953, 0xA953, 1⟩, 9⟩, ⟨⟨0xA983, 0xA983, 1⟩, 0⟩,
  ⟨⟨0xA9B4, 0xA9B5, 1⟩, 0⟩, ⟨⟨0xA9BA, 0xA9BB, 1⟩, 0⟩, ⟨⟨0xA9BE, 0xA9BF, 1⟩, 0⟩,
  ⟨⟨0xA9C0, 0xA9C0, 1⟩, 9⟩, ⟨⟨0xAA2F, 0xAA30, 1⟩, 0⟩, ⟨⟨0xAA33, 0xAA34, 1⟩, 0⟩,
  ⟨⟨0xAA4D, 0xAA4D, 1⟩, 0⟩, ⟨⟨0xAA7B, 0xAA7B, 1⟩, 0⟩, ⟨⟨0xAA7D, 0xAA7D, 1⟩, 0⟩,
  ⟨⟨0xAAEB, 0xAAEB, 1⟩, 0⟩, ⟨⟨0xAAEE, 0xAAEF, 1⟩, 0⟩, ⟨⟨0xAAF5, 0xAAF5, 1⟩, 0⟩,
  ⟨⟨0xABE3, 0xABE4, 1⟩, 0⟩, ⟨⟨0xABE6, 0xABE7, 1⟩, 0⟩, ⟨⟨0xABE9, 0xABEA, 1⟩, 0⟩,
  ⟨⟨0xABEC, 0xABEC, 1⟩, 0⟩, ⟨⟨0x11000, 0x11000, 1⟩, 0⟩, ⟨⟨0x11002, 0x11002, 1⟩, 0⟩,
  ⟨⟨0x11082, 0x11082, 1⟩, 0⟩, ⟨⟨0x110B0, 0x110B2, 1⟩, 0⟩, ⟨⟨0x110B7, 0x110B8, 1⟩, 0⟩,
  ⟨⟨0x1112C, 0x1112C, 1⟩, 0⟩, ⟨⟨0x11145, 0x11146, 1⟩, 0⟩, ⟨⟨0x11182, 0x11182, 1⟩, 0⟩,
  ⟨⟨0x111B3, 0x111B5, 1⟩, 0⟩, ⟨⟨0x111BF, 0x111BF, 1⟩, 0⟩, ⟨⟨0x111C0, 0x111C0, 1⟩, 9⟩,
  ⟨⟨0x111CE, 0x111CE, 1⟩, 0⟩, ⟨⟨0x1122C, 0x1122E, 1⟩, 0⟩, ⟨⟨0x11232, 0x11233, 1⟩, 0⟩,
  ⟨⟨0x11235, 0x11235, 1⟩, 9⟩, ⟨⟨0x112E0, 0x112E2, 1⟩, 0⟩, ⟨⟨0x11302, 0x11303, 1⟩, 0⟩,
  ⟨⟨0x1133E, 0x1133F, 1⟩, 0⟩, ⟨⟨0x11341, 0x11344, 1⟩, 0⟩, ⟨⟨0x11347, 0x11348, 1⟩, 0⟩,
  ⟨⟨0x1134B, 0x1134C, 1⟩, 0⟩, ⟨⟨0x1134D, 0x1134D, 1⟩, 9⟩, ⟨⟨0x11357, 0x11357, 1⟩, 0⟩,
  ⟨⟨0x11362, 0x11363, 1⟩, 0⟩, ⟨⟨0x11435, 0x11437, 1⟩, 0⟩, ⟨⟨0x11440, 0x11441, 1⟩, 0⟩,
  ⟨⟨0x11445, 0x11445, 1⟩, 0⟩, ⟨⟨0x114B0, 0x114B2, 1⟩, 0⟩, ⟨⟨0x114B9, 0x114B9, 1⟩, 0⟩,
  ⟨⟨0x114BB, 0x114BE, 1⟩, 0⟩, ⟨⟨0x114C1, 0x114C1, 1⟩, 0⟩, ⟨⟨0x115AF, 0x115B1, 1⟩, 0⟩,
  ⟨⟨0x115B8, 0x115BB, 1⟩, 0⟩, ⟨⟨0x115BE, 0x115BE, 1⟩, 0⟩, ⟨⟨0x11630, 0x11632, 1⟩, 0⟩,
  ⟨⟨0x1163B, 0x1163C, 1⟩, 0⟩, ⟨⟨0x1163E, 0x1163E, 1⟩, 0⟩, ⟨⟨0x116AC, 0x116AC, 1⟩, 0⟩,
  ⟨⟨0x116AE, 0x116AF, 1⟩, 0⟩, ⟨⟨0x116B6, 0x116B6, 1⟩, 9⟩, ⟨⟨0x11720, 0x11721, 1⟩, 0⟩,
  ⟨⟨0x11726, 0x11726, 1⟩, 0⟩, ⟨⟨0x1182C, 0x1182E, 1⟩, 0⟩, ⟨⟨0x11838, 0x11838, 1⟩, 0⟩,
  ⟨⟨0x11930, 0x11935, 1⟩, 0⟩, ⟨⟨0x11937, 0x11938, 1⟩, 0⟩, ⟨⟨0x1193D, 0x1193D, 1⟩, 9⟩,
  ⟨⟨0x11940, 0x11940, 1⟩, 0⟩, ⟨⟨0x11942, 0x11942, 1⟩, 0⟩, ⟨⟨0x119D1, 0x119D3, 1⟩, 0⟩,
  ⟨⟨0x119DC, 0x119DF, 1⟩, 0⟩, ⟨⟨0x119E4, 0x119E4, 1⟩, 0⟩, ⟨⟨0x11A07, 0x11A08, 1⟩, 0⟩,
  ⟨⟨0x11A39, 0x11A39, 1⟩, 0⟩, ⟨⟨0x11A57, 0x11A58, 1⟩, 0⟩, ⟨⟨0x11A97, 0x11A97, 1⟩, 0⟩,
  ⟨⟨0x11C2F, 0x11C2F, 1⟩, 0⟩, ⟨⟨0x11C3E, 0x11C3E, 1⟩, 0⟩, ⟨⟨0x11C3F, 0x11C3F, 1⟩, 9⟩,
  ⟨⟨0x11CA9, 0x11CA9, 1⟩, 0⟩, ⟨⟨0x11CB1, 0x11CB1, 1⟩, 0⟩, ⟨⟨0x11CB4, 0x11CB4, 1⟩, 0⟩,
  ⟨⟨0x11D8A, 0x11D8E, 1⟩, 0⟩, ⟨⟨0x11D93, 0x11D94, 1⟩, 0⟩, ⟨⟨0x11D96, 0x11D96, 1⟩, 0⟩,
  ⟨⟨0x11EF5, 0x11EF6, 1⟩, 0⟩, ⟨⟨0x16F51, 0x16F87, 1⟩, 0⟩, ⟨⟨0x16FF0, 0x16FF1, 1⟩, 6⟩]

def dualJoining : List Span := [
  ⟨0x0620, 0x0620, 1⟩, ⟨0x0626, 0x062A, 2⟩, ⟨0x062B, 0x062E, 1⟩, ⟨0x0633, 0x063F, 1⟩,
  ⟨0x0641, 0x0647, 1⟩, ⟨0x0649, 0x064A, 1⟩, ⟨0x066E, 0x066F, 1⟩, ⟨0x0679, 0x0687, 1⟩,
  ⟨0x069A, 0x06BF, 1⟩, ⟨0x06C1, 0x06C2, 1⟩, ⟨0x06CC, 0x06D0, 2⟩, ⟨0x06D1, 0x06D1, 1⟩,
  ⟨0x06FA, 0x06FC, 1⟩, ⟨0x06FF, 0x06FF, 1⟩, ⟨0x0712, 0x0714, 1⟩, ⟨0x071A, 0x071D, 1⟩,
  ⟨0x071F, 0x0727, 1⟩, ⟨0x0729, 0x072D, 2⟩, ⟨0x072E, 0x072E, 1⟩, ⟨0x074E, 0x0758, 1⟩,
  ⟨0x075C, 0x076A, 1⟩, ⟨0x076D, 0x0770, 1⟩, ⟨0x0772, 0x0772, 1⟩, ⟨0x0775, 0x0777, 1⟩,
  ⟨0x077A, 0x077F, 1⟩, ⟨0x07CA, 0x07EA, 1⟩, ⟨0x0841, 0x0845, 1⟩, ⟨0x0848, 0x0848, 1⟩,
  ⟨0x084A, 0x0853, 1⟩, ⟨0x0855, 0x0855, 1⟩, ⟨0x0860, 0x0860, 1⟩, ⟨0x0862, 0x0865, 1⟩,
  ⟨0x0868, 0x0868, 1⟩, ⟨0x0886, 0x0886, 1⟩, ⟨0x0889, 0x088D, 1⟩, ⟨0x08A0, 0x08A9, 1⟩,
  ⟨0x08AF, 0x08B0, 1⟩, ⟨0x08B3, 0x08B8, 1⟩, ⟨0x08BA, 0x08C8, 1⟩, ⟨0x1820, 0x1878, 1⟩,
  ⟨0x1887, 0x18A8, 1⟩, ⟨0x18AA, 0x18AA, 1⟩, ⟨0xA840, 0xA871, 1⟩, ⟨0x10AC0, 0x10AC4, 1⟩,
  ⟨0x10AD3, 0x10AD6, 1⟩, ⟨0x10AD8, 0x10ADC, 1⟩, ⟨0x10ADE, 0x10AE0, 1⟩, ⟨0x10B80, 0x10B80, 1⟩,
  ⟨0x10B82, 0x10B82, 1⟩, ⟨0x10B86, 0x10B88, 1⟩, ⟨0x10B8A, 0x10B8B, 1⟩, ⟨0x10B8D, 0x10B8D, 1⟩,
  ⟨0x10B90, 0x10B90, 1⟩, ⟨0x10D01, 0x10D21, 1⟩, ⟨0x10D23, 0x10D23, 1⟩, ⟨0x10F30, 0x10F32, 1⟩,
  ⟨0x10F34, 0x10F44, 1⟩, ⟨0x10F70, 0x10F73, 1⟩, ⟨0x10F76, 0x10F81, 1⟩, ⟨0x10FB0, 0x10FB0, 1⟩,
  ⟨0x10FB2, 0x10FB3, 1⟩, ⟨0x10FB8, 0x10FB8, 1⟩, ⟨0x10FBB, 0x10FBC, 1⟩, ⟨0x10FBE, 0x10FBF, 1⟩,
  ⟨0x10FC1, 0x10FC1, 1⟩, ⟨0x10FC4, 0x10FC4, 1⟩, ⟨0x1E922, 0x1E943, 1⟩]

/-- Letters that join the following one only. -/
def leftJoining : List Span := [
  ⟨0xA872, 0xA872, 1⟩, ⟨0x10ACD, 0x10ACD, 1⟩, ⟨0x10AD7, 0x10AD7, 1⟩, ⟨0x10D00, 0x10D00, 1⟩]

/-- Letters that join the preceding one only. -/
def rightJoining : List Span := [
  ⟨0x0622, 0x0625, 1⟩, ⟨0x0627, 0x0627, 1⟩, ⟨0x0629, 0x0629, 1⟩, ⟨0x062F, 0x0632, 1⟩,
  ⟨0x0648, 0x0648, 1⟩, ⟨0x0671, 0x0673, 1⟩, ⟨0x0688, 0x0699, 1⟩, ⟨0x06C0, 0x06C0, 1⟩,
  ⟨0x06C3, 0x06CB, 1⟩, ⟨0x06CD, 0x06CD, 1⟩, ⟨0x06CF, 0x06CF, 1⟩, ⟨0x06D2, 0x06D3, 1⟩,
  ⟨0x06D5, 0x06D5, 1⟩, ⟨0x06EE, 0x06EF, 1⟩, ⟨0x0710, 0x0710, 1⟩, ⟨0x0715, 0x0719, 1⟩,
  ⟨0x071E, 0x071E, 1⟩, ⟨0x0728, 0x072C, 2⟩, ⟨0x072F, 0x072F, 1⟩, ⟨0x074D, 0x074D, 1⟩,
  ⟨0x0759, 0x075B, 1⟩, ⟨0x076B, 0x076C, 1⟩, ⟨0x0771, 0x0771, 1⟩, ⟨0x0773, 0x0774, 1⟩,
  ⟨0x0778, 0x0779, 1⟩, ⟨0x0840, 0x0840, 1⟩, ⟨0x0846, 0x0847, 1⟩, ⟨0x0849, 0x0849, 1⟩,
  ⟨0x0854, 0x0854, 1⟩, ⟨0x0856, 0x0858, 1⟩, ⟨0x0867, 0x0867, 1⟩, ⟨0x0869, 0x086A, 1⟩,
  ⟨0x0870, 0x0882, 1⟩, ⟨0x088E, 0x088E, 1⟩, ⟨0x08AA, 0x08AC, 1⟩, ⟨0x08AE, 0x08AE, 1⟩,
  ⟨0x08B1, 0x08B2, 1⟩, ⟨0x08B9, 0x08B9, 1⟩, ⟨0x10AC5, 0x10AC9, 2⟩, ⟨0x10ACA, 0x10ACA, 1⟩,
  ⟨0x10ACE, 0x10AD2, 1⟩, ⟨0x10ADD, 0x10ADD, 1⟩, ⟨0x10AE1, 0x10AE1, 1⟩, ⟨0x10AE4, 0x10AE4, 1⟩,
  ⟨0x10B81, 0x10B81, 1⟩, ⟨0x10B83, 0x10B85, 1⟩, ⟨0x10B89, 0x10B89, 1⟩, ⟨0x10B8C, 0x10B8C, 1⟩,
  ⟨0x10B8E, 0x10B8F, 1⟩, ⟨0x10B91, 0x10B91, 1⟩, ⟨0x10D22, 0x10D22, 1⟩, ⟨0x10F33, 0x10F33, 1⟩,
  ⟨0x10F74, 0x10F75, 1⟩, ⟨0x10FB4, 0x10FB6, 1⟩, ⟨0x10FB9, 0x10FBA, 1⟩, ⟨0x10FBD, 0x10FBD, 1⟩,
  ⟨0x10FC2, 0x10FC3, 1⟩]

/-- Letters that do not break the joining around them, as marks do not. -/
def otherTransparent : List Span := [
  ⟨0x0CBF, 0x0CBF, 1⟩, ⟨0x0CC6, 0x0CC6, 1⟩, ⟨0x11A07, 0x11A08, 1⟩, ⟨0x11C3F, 0x11C3F, 1⟩,
  ⟨0x1E94B, 0x1E94B, 1⟩]

/-- The marks that do break the joining around them. -/
def breakingMarks : List Span := [
  ⟨0x1171E, 0x1171E, 1⟩]

def greekLetters : List Span := [
  ⟨0x0371, 0x0377, 2⟩, ⟨0x037B, 0x037D, 1⟩, ⟨0x0390, 0x0390, 1⟩, ⟨0x03AC, 0x03CE, 1⟩,
  ⟨0x03D7, 0x03E1, 2⟩, ⟨0x03F3, 0x03F3, 1⟩, ⟨0x03F8, 0x03F8, 1⟩, ⟨0x03FB, 0x03FC, 1⟩,
  ⟨0x1D26, 0x1D2A, 1⟩, ⟨0x1F00, 0x1F07, 1⟩, ⟨0x1F10, 0x1F15, 1⟩, ⟨0x1F20, 0x1F27, 1⟩,
  ⟨0x1F30, 0x1F37, 1⟩, ⟨0x1F40, 0x1F45, 1⟩, ⟨0x1F50, 0x1F57, 1⟩, ⟨0x1F60, 0x1F67, 1⟩,
  ⟨0x1F70, 0x1F7C, 2⟩, ⟨0x1FB0, 0x1FB1, 1⟩, ⟨0x1FB6, 0x1FB6, 1⟩, ⟨0x1FC6, 0x1FC6, 1⟩,
  ⟨0x1FD0, 0x1FD2, 1⟩, ⟨0x1FD6, 0x1FD7, 1⟩, ⟨0x1FE0, 0x1FE2, 1⟩, ⟨0x1FE4, 0x1FE7, 1⟩,
  ⟨0x1FF6, 0x1FF6, 1⟩, ⟨0xAB65, 0xAB65, 1⟩]

def hebrewLetters : List Span := [
  ⟨0x0591, 0x05BD, 1⟩, ⟨0x05BF, 0x05BF, 1⟩, ⟨0x05C1, 0x05C2, 1⟩, ⟨0x05C4, 0x05C5, 1⟩,
  ⟨0x05C7, 0x05C7, 1⟩, ⟨0x05D0, 0x05EA, 1⟩, ⟨0x05EF, 0x05F4, 1⟩, ⟨0xFB1E, 0xFB1E, 1⟩]

def hiraganaLetters : List Span := [
  ⟨0x3041, 0x3096, 1⟩, ⟨0x309D, 0x309E, 1⟩, ⟨0x1B001, 0x1B11F, 1⟩, ⟨0x1B150, 0x1B152, 1⟩]

def katakanaLetters : List Span := [
  ⟨0x30A1, 0x30FA, 1⟩, ⟨0x30FD, 0x30FE, 1⟩, ⟨0x31F0, 0x31FF, 1⟩, ⟨0x1AFF0, 0x1AFF3, 1⟩,
  ⟨0x1AFF5, 0x1AFFB, 1⟩, ⟨0x1AFFD, 0x1AFFE, 1⟩, ⟨0x1B000, 0x1B000, 1⟩, ⟨0x1B120, 0x1B122, 1⟩,
  ⟨0x1B164, 0x1B167, 1⟩]

def hanLetters : List Span := [
  ⟨0x3005, 0x3005, 1⟩, ⟨0x3007, 0x3007, 1⟩, ⟨0x3400, 0x4DBF, 1⟩, ⟨0x4E00, 0x9FFF, 1⟩,
  ⟨0xFA0E, 0xFA0F, 1⟩, ⟨0xFA11, 0xFA11, 1⟩, ⟨0xFA13, 0xFA14, 1⟩, ⟨0xFA1F, 0xFA23, 2⟩,
  ⟨0xFA24, 0xFA24, 1⟩, ⟨0xFA27, 0xFA29, 1⟩, ⟨0x16FE3, 0x16FE3, 1⟩, ⟨0x16FF0, 0x16FF1, 1⟩,
  ⟨0x20000, 0x2A6DF, 1⟩, ⟨0x2A700, 0x2B738, 1⟩, ⟨0x2B740, 0x2B81D, 1⟩, ⟨0x2B820, 0x2CEA1, 1⟩,
  ⟨0x2CEB0, 0x2EBE0, 1⟩, ⟨0x30000, 0x3134A, 1⟩]

/-- The marks that host names do not hold. -/
def otherMarks : List MarkSpan := [
  ⟨⟨0x0340, 0x0341, 1⟩, 230⟩, ⟨⟨0x0343, 0x0344, 1⟩, 230⟩, ⟨⟨0x0345, 0x0345, 1⟩, 240⟩,
  ⟨⟨0x034F, 0x034F, 1⟩, 0⟩, ⟨⟨0x0488, 0x0489, 1⟩, 0⟩, ⟨⟨0x0F73, 0x0F73, 1⟩, 0⟩,
  ⟨⟨0x0F75, 0x0F79, 1⟩, 0⟩, ⟨⟨0x0F81, 0x0F81, 1⟩, 0⟩, ⟨⟨0x0F93, 0x0F93, 1⟩, 0⟩,
  ⟨⟨0x0F9D, 0x0F9D, 1⟩, 0⟩, ⟨⟨0x0FA2, 0x0FA2, 1⟩, 0⟩, ⟨⟨0x0FA7, 0x0FA7, 1⟩, 0⟩,
  ⟨⟨0x0FAC, 0x0FAC, 1⟩, 0⟩, ⟨⟨0x0FB9, 0x0FB9, 1⟩, 0⟩, ⟨⟨0x17B4, 0x17B5, 1⟩, 0⟩,
  ⟨⟨0x180B, 0x180D, 1⟩, 0⟩, ⟨⟨0x180F, 0x180F, 1⟩, 0⟩, ⟨⟨0x1ABE, 0x1ABE, 1⟩, 0⟩,
  ⟨⟨0x20D0, 0x20D1, 1⟩, 230⟩, ⟨⟨0x20D2, 0x20D3, 1⟩, 1⟩, ⟨⟨0x20D4, 0x20D7, 1⟩, 230⟩,
  ⟨⟨0x20D8, 0x20DA, 1⟩, 1⟩, ⟨⟨0x20DB, 0x20DC, 1⟩, 230⟩, ⟨⟨0x20DD, 0x20E0, 1⟩, 0⟩,
  ⟨⟨0x20E1, 0x20E1, 1⟩, 230⟩, ⟨⟨0x20E2, 0x20E4, 1⟩, 0⟩, ⟨⟨0x20E5, 0x20E6, 1⟩, 1⟩,
  ⟨⟨0x20E7, 0x20E7, 1⟩, 230⟩, ⟨⟨0x20E8, 0x20E8, 1⟩, 220⟩, ⟨⟨0x20E9, 0x20E9, 1⟩, 230⟩,
  ⟨⟨0x20EA, 0x20EB, 1⟩, 1⟩, ⟨⟨0x20EC, 0x20EF, 1⟩, 220⟩, ⟨⟨0x20F0, 0x20F0, 1⟩, 230⟩,
  ⟨⟨0x302E, 0x302F, 1⟩, 224⟩, ⟨⟨0xA670, 0xA672, 1⟩, 0⟩, ⟨⟨0xFE00, 0xFE0F, 1⟩, 0⟩,
  ⟨⟨0x1D165, 0x1D166, 1⟩, 216⟩, ⟨⟨0x1D167, 0x1D169, 1⟩, 1⟩, ⟨⟨0x1D16D, 0x1D16D, 1⟩, 226⟩,
  ⟨⟨0x1D16E, 0x1D172, 1⟩, 216⟩, ⟨⟨0x1D17B, 0x1D182, 1⟩, 220⟩, ⟨⟨0x1D185, 0x1D189, 1⟩, 230⟩,
  ⟨⟨0x1D18A, 0x1D18B, 1⟩, 220⟩, ⟨⟨0x1D1AA, 0x1D1AD, 1⟩, 230⟩, ⟨⟨0x1D242, 0x1D244, 1⟩, 230⟩,
  ⟨⟨0xE0100, 0xE01EF, 1⟩, 0⟩]

/-- The characters of host names that came after version 14. -/
def laterCharacters : List Span := [
  ⟨0x088F, 0x088F, 1⟩, ⟨0x0897, 0x0897, 1⟩, ⟨0x0C5C, 0x0C5C, 1⟩, ⟨0x0CDC, 0x0CDC, 1⟩,
  ⟨0x0CF3, 0x0CF3, 1⟩, ⟨0x0ECE, 0x0ECE, 1⟩, ⟨0x1ACF, 0x1ADD, 1⟩, ⟨0x1AE0, 0x1AEB, 1⟩,
  ⟨0x1C8A, 0x1C8A, 1⟩, ⟨0xA7CD, 0xA7CD, 1⟩, ⟨0xA7CF, 0xA7CF, 1⟩, ⟨0xA7DB, 0xA7DB, 1⟩,
  ⟨0x105C0, 0x105F3, 1⟩, ⟨0x10940, 0x10959, 1⟩, ⟨0x10D40, 0x10D4F, 1⟩, ⟨0x10D69, 0x10D6D, 1⟩,
  ⟨0x10D6F, 0x10D85, 1⟩, ⟨0x10EC2, 0x10EC7, 1⟩, ⟨0x10EFA, 0x10EFF, 1⟩, ⟨0x1123F, 0x11241, 1⟩,
  ⟨0x11380, 0x11389, 1⟩, ⟨0x1138B, 0x1138B, 1⟩, ⟨0x1138E, 0x1138E, 1⟩, ⟨0x11390, 0x113B5, 1⟩,
  ⟨0x113B7, 0x113C0, 1⟩, ⟨0x113C2, 0x113C2, 1⟩, ⟨0x113C5, 0x113C5, 1⟩, ⟨0x113C7, 0x113CA, 1⟩,
  ⟨0x113CC, 0x113D3, 1⟩, ⟨0x113E1, 0x113E2, 1⟩, ⟨0x116D0, 0x116E3, 1⟩, ⟨0x11B60, 0x11B67, 1⟩,
  ⟨0x11BC0, 0x11BE0, 1⟩, ⟨0x11BF0, 0x11BF9, 1⟩, ⟨0x11DB0, 0x11DDB, 1⟩, ⟨0x11DE0, 0x11DE9, 1⟩,
  ⟨0x11F00, 0x11F10, 1⟩, ⟨0x11F12, 0x11F3A, 1⟩, ⟨0x11F3E, 0x11F42, 1⟩, ⟨0x11F50, 0x11F5A, 1⟩,
  ⟨0x1342F, 0x1342F, 1⟩, ⟨0x13440, 0x13455, 1⟩, ⟨0x13460, 0x143FA, 1⟩, ⟨0x16100, 0x16139, 1⟩,
  ⟨0x16D40, 0x16D6C, 1⟩, ⟨0x16D70, 0x16D79, 1⟩, ⟨0x16EBB, 0x16ED3, 1⟩, ⟨0x16FF2, 0x16FF3, 1⟩,
  ⟨0x187F8, 0x187FF, 1⟩, ⟨0x18CFF, 0x18CFF, 1⟩, ⟨0x18D09, 0x18D1E, 1⟩, ⟨0x18D80, 0x18DF2, 1⟩,
  ⟨0x1B132, 0x1B132, 1⟩, ⟨0x1B155, 0x1B155, 1⟩, ⟨0x1DF25, 0x1DF2A, 1⟩, ⟨0x1E08F, 0x1E08F, 1⟩,
  ⟨0x1E4D0, 0x1E4F9, 1⟩, ⟨0x1E5D0, 0x1E5FA, 1⟩, ⟨0x1E6C0, 0x1E6DE, 1⟩, ⟨0x1E6E0, 0x1E6F5, 1⟩,
  ⟨0x1E6FE, 0x1E6FF, 1⟩, ⟨0x2B739, 0x2B73F, 1⟩, ⟨0x2CEA2, 0x2CEAD, 1⟩, ⟨0x2EBF0, 0x2EE5D, 1⟩,
  ⟨0x31350, 0x33479, 1⟩]

end AdminGate.Text
