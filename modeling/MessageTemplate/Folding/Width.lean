import MessageTemplate.Character.Mapping

/-! # Character width

Wide forms of narrow characters and narrow forms of wide ones, with the character each stands for:
the ideographic space and the halfwidth and fullwidth forms. -/

namespace MessageTemplate.Folding

/-- The forms and the characters they stand for. -/
def widthMapping : Character.Mapping where
  runs :=
    [⟨0x3000, 0x3000, 1, -0x2FE0⟩,
     ⟨0xFF01, 0xFF5E, 1, -0xFEE0⟩, ⟨0xFF5F, 0xFF60, 1, -0xD5DA⟩, ⟨0xFF61, 0xFF61, 1, -0xCF5F⟩,
     ⟨0xFF62, 0xFF63, 1, -0xCF56⟩, ⟨0xFF64, 0xFF64, 1, -0xCF63⟩, ⟨0xFF65, 0xFF65, 1, -0xCE6A⟩,
     ⟨0xFF66, 0xFF66, 1, -0xCE74⟩, ⟨0xFF67, 0xFF67, 1, -0xCEC6⟩, ⟨0xFF68, 0xFF68, 1, -0xCEC5⟩,
     ⟨0xFF69, 0xFF69, 1, -0xCEC4⟩, ⟨0xFF6A, 0xFF6A, 1, -0xCEC3⟩, ⟨0xFF6B, 0xFF6B, 1, -0xCEC2⟩,
     ⟨0xFF6C, 0xFF6C, 1, -0xCE89⟩, ⟨0xFF6D, 0xFF6D, 1, -0xCE88⟩, ⟨0xFF6E, 0xFF6E, 1, -0xCE87⟩,
     ⟨0xFF6F, 0xFF6F, 1, -0xCEAC⟩, ⟨0xFF70, 0xFF70, 1, -0xCE74⟩, ⟨0xFF71, 0xFF71, 1, -0xCECF⟩,
     ⟨0xFF72, 0xFF72, 1, -0xCECE⟩, ⟨0xFF73, 0xFF73, 1, -0xCECD⟩, ⟨0xFF74, 0xFF74, 1, -0xCECC⟩,
     ⟨0xFF75, 0xFF76, 1, -0xCECB⟩, ⟨0xFF77, 0xFF77, 1, -0xCECA⟩, ⟨0xFF78, 0xFF78, 1, -0xCEC9⟩,
     ⟨0xFF79, 0xFF79, 1, -0xCEC8⟩, ⟨0xFF7A, 0xFF7A, 1, -0xCEC7⟩, ⟨0xFF7B, 0xFF7B, 1, -0xCEC6⟩,
     ⟨0xFF7C, 0xFF7C, 1, -0xCEC5⟩, ⟨0xFF7D, 0xFF7D, 1, -0xCEC4⟩, ⟨0xFF7E, 0xFF7E, 1, -0xCEC3⟩,
     ⟨0xFF7F, 0xFF7F, 1, -0xCEC2⟩, ⟨0xFF80, 0xFF80, 1, -0xCEC1⟩, ⟨0xFF81, 0xFF81, 1, -0xCEC0⟩,
     ⟨0xFF82, 0xFF82, 1, -0xCEBE⟩, ⟨0xFF83, 0xFF83, 1, -0xCEBD⟩, ⟨0xFF84, 0xFF84, 1, -0xCEBC⟩,
     ⟨0xFF85, 0xFF8A, 1, -0xCEBB⟩, ⟨0xFF8B, 0xFF8B, 1, -0xCEB9⟩, ⟨0xFF8C, 0xFF8C, 1, -0xCEB7⟩,
     ⟨0xFF8D, 0xFF8D, 1, -0xCEB5⟩, ⟨0xFF8E, 0xFF8E, 1, -0xCEB3⟩, ⟨0xFF8F, 0xFF93, 1, -0xCEB1⟩,
     ⟨0xFF94, 0xFF94, 1, -0xCEB0⟩, ⟨0xFF95, 0xFF95, 1, -0xCEAF⟩, ⟨0xFF96, 0xFF9B, 1, -0xCEAE⟩,
     ⟨0xFF9C, 0xFF9C, 1, -0xCEAD⟩, ⟨0xFF9D, 0xFF9D, 1, -0xCEAA⟩, ⟨0xFF9E, 0xFF9F, 1, -0xCF05⟩,
     ⟨0xFFA0, 0xFFA0, 1, -0xEE40⟩, ⟨0xFFA1, 0xFFA2, 1, -0xEEA1⟩, ⟨0xFFA3, 0xFFA3, 1, -0xEDF9⟩,
     ⟨0xFFA4, 0xFFA4, 1, -0xEEA2⟩, ⟨0xFFA5, 0xFFA6, 1, -0xEDF9⟩, ⟨0xFFA7, 0xFFA9, 1, -0xEEA4⟩,
     ⟨0xFFAA, 0xFFAF, 1, -0xEDFA⟩, ⟨0xFFB0, 0xFFB0, 1, -0xEE96⟩, ⟨0xFFB1, 0xFFB3, 1, -0xEEAB⟩,
     ⟨0xFFB4, 0xFFB4, 1, -0xEE93⟩, ⟨0xFFB5, 0xFFBE, 1, -0xEEAC⟩, ⟨0xFFC2, 0xFFC7, 1, -0xEE61⟩,
     ⟨0xFFCA, 0xFFCF, 1, -0xEE63⟩, ⟨0xFFD2, 0xFFD7, 1, -0xEE65⟩, ⟨0xFFDA, 0xFFDC, 1, -0xEE67⟩,
     ⟨0xFFE0, 0xFFE1, 1, -0xFF3E⟩, ⟨0xFFE2, 0xFFE2, 1, -0xFF36⟩, ⟨0xFFE4, 0xFFE4, 1, -0xFF3E⟩,
     ⟨0xFFE5, 0xFFE5, 1, -0xFF40⟩, ⟨0xFFE6, 0xFFE6, 1, -0xDF3D⟩, ⟨0xFFE8, 0xFFE8, 1, -0xDAE6⟩,
     ⟨0xFFE9, 0xFFEC, 1, -0xDE59⟩, ⟨0xFFED, 0xFFED, 1, -0xDA4D⟩, ⟨0xFFEE, 0xFFEE, 1, -0xDA23⟩]
  expansions := [(0xFFE3, [0x20, 0x304])]

/-- A character in its usual width. -/
def usualWidth (character : Char) : List Char :=
  if character.toNat < 128 then [character] else widthMapping.apply character

end MessageTemplate.Folding
