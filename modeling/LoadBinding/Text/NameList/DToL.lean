/-!
# Names of characters, D to L

The names that the Unicode standard gives to characters, as far as they are no series, with the
correct and the short names that it lists beside them: those that begin with D to L, in the
spelling of `Text/CharacterName`.
-/

namespace LoadBinding.Text

/-- The names that begin with D to L. -/
def namesDToL : List String :=
  ["aDAGGERg KNIFEhWITH LEFT GUARDmRIGHT GUARDcLET SYMBOLcNCERdGOcRK SHADEgUNGLASSEScSH SYMBOL",
   "fWITH LEFT UPTURNeED LOW LINEhOVERLINEhTRIANGLE-HEADED RIGHTWARDS ARROWcTA LINK ESCAPEbC1c2c3",
   "c4cSbEAF PERSONcCIDUOUS TREEeMAL EXPONENT SYMBOLiSEPARATOR KEY SYMBOLdREASE FONT SIZE SYMBOL",
   "cERcGREE CELSIUShFAHRENHEIThSIGNcLdETEdIVERY TRUCKdTA EQUAL TO",
   "cNTISTRY SYMBOL LIGHT DOWN AND HORIZONTAL^ WITH CIRCLE) TRIANGLE) WAVExUP AND HORIZONTAL",
   "? WITH CIRCLE(TRIANGLE(WAVExVERTICAL AND BOTTOM LEFT_RIGHT;TOP LEFT?RIGHT;WAVE+WITH CIRCLE",
   "<TRIANGLEcPARTMENT STOREcRELICT HOUSE BUILDINGcSCENDING NODEdERET CAPITAL LETTER AYxBEExCHEE",
   "xDEExEFyLyMyNzGyRySzHyTHyWxGAYxHxJEExKAYxLONG A%H$E$I$O%OxOIyWxPEExSHORT A&H%E%I%O&OxTEEyHEE",
   "xVEExWUxYEExZEEyHEEiSMALL LETTER AYvBEEvCHEEvDEEvEFwLwMwNxGwRwSxHwTHwWvGAYvHvJEEvKAYvLONG A#H",
   "!E!I!O#OvOIwWvPEEvSHORT A$H#E#I#O$OvTEEwHEEvVEEvWUvYEEvZEEwHEEfTg ISLANDdKTOP COMPUTERiWINDOW",
   "cVANAGARI ABBREVIATION SIGNmCUTE ACCENTlCARETlDANDAmIGIT EIGHTrFIVEsOURrNINErONErSEVENsIX",
   "rTHREEsWOrZEROmOUBLE DANDAlGAP FILLERmRAVE ACCENTlHEADSTROKElJAIN OMlLETTER AtAtItUtWtYsBAtBA",
   "tHAsCAuNDRA AzEzOtHAsDAtDAuDAvHAuHAtHAsEsFAsGAtGAtHAuHAtLOTTAL STOPsHAtEAVY YAsItIsJAtHAtJAsKA",
   "tHAuHAsLAtLAuLAsMAuRWARI DDAsNAtGAtNAuNAtYAsOtEtOEsPAtHAsQAsRAtHAtRAsSAtHAuORT AyEyOtSAsTAtHA",
   "tTAuHAsUtEtUuEsVAtOCALIC L#L!R#RsYAtYAsZAtHAlOMlSIGN ANUSVARArVAGRAHAqCANDRABINDU# AVAGRAHA",
   "$THREE%WO$VIRAMAqDOUBLE CANDRABINDU VIRAMAqHIGH SPACING DOTqINVERTED CANDRABINDUqNUKTA",
   "qPUSHPIKAqSIDDHAMrPACING CANDRABINDUqVIRAMAsSARGAmTRESS SIGN ANUDATTAxUDATTAlVOWEL SIGN AAxIxU",
   "xWxYwCANDRA E%LONG E%OwEwIxIwOxExOEwPRISHTHAMATRA EwSHORT E$OwUxExUyEwVOCALIC L*L&R*R",
   "dICE CONTROL FOURpONEpSTRINGpTHREEqWObIAERESISdMETER SIGNeOND OPERATORiSHAPE WITH A DOT INSIDE",
   "iTARGETiWITH BOTTOM HALF BLACKnLEFT HALF BLACKnRIGHT HALF BLACKnTOP HALF BLACKcE FACE-1j2j3j4",
   "j5j6dSEL LOCOMOTIVEcFFERENCE BETWEENcGIT EIGHTl COMMAmFULL STOPgFIVEk COMMAlFULL STOPhOUR",
   "k COMMAlFULL STOPgNINEk COMMAlFULL STOPgONEj COMMAkFULL STOPgSEVENl COMMAmFULL STOPhIXj COMMA",
   "kFULL STOPgTHREEl COMMAmFULL STOPhWOj COMMAkFULL STOPgZEROk COMMAlFULL STOPdRAM FOR EARTH",
   "qLY HEAVENuUMANlGREATER YANGuINlHEAVENLY EARTHmUMAN EARTHlLESSER YANGtINcMENSION ORIGIN",
   "cNGBAT CIRCLED SANS-SERIF DIGIT EIGHT,FIVE.OUR,NINE,ONE,SEVEN.IX,THREE.WO,ZERO#NUMBER TEN",
   "iNEGATIVE CIRCLED DIGIT EIGHT*FIVE+OUR*NINE*ONE*SEVEN+IX*THREE+WOzNUMBER TEN",
   "zSANS-SERIF DIGIT EIGHT^FIVE_OUR^NINE^ONE^SEVEN_IX^THREE_WO^ZERO;NUMBER TEN",
   "cRECT CURRENT SYMBOL FORM TWOhHITcSABLED CARePPOINTED BUT RELIEVED FACEnFACE",
   "dCONTINUOUS UNDERLINE SYMBOLdGUISED FACEcTTO MARKcVES AKURU DIGIT EIGHTsFIVEtOURsNINEsONE",
   "sSEVENtIXsTHREEtWOsZEROnOUBLE DANDAmEND OF TEXT MARKmGAP FILLERmINITIAL RAmLETTER AuAtBAuHAtCA",
   "uHAtDAuDAvHAuHAtEtGAuHAtHAtIuItJAtKAuHAtLAuLAtMAtNAuGAuNAuYAtOtPAuHAtRAtSAuHAuSAtTAuHAuTAtUuU",
   "tVAtYAuYAtZAmMEDIAL RAtYAmPREFIXED NASAL SIGNmSIGN ANUSVARArCANDRABINDUrHALANTArNUKTAmVIRAMA",
   "nOWEL SIGN AAyIxExIyIxOxUyUdIDESeNG MASKeSION SIGNkLASHjTIMESdORCE SYMBOLcYA LAMPcZZY FACE",
   "gSYMBOLbLEbNA DOUBLE HELIXbO NOT LITTER SYMBOLcCUMENTi WITH PICTUREoTEXTs AND PICTUREcDO",
   "cES NOT CONTAIN AS MEMBERuNORMAL SUBGROUP: OR EQUALjDIVIDEp WITH REVERSED NEGATION SLASHjFORCE",
   "jPRECEDEq OR EQUALlOVEjSUCCEEDq OR EQUALcGd FACEdRA ABBREVIATION SIGNgLETTER AoAoIoUnBAoHAnCA",
   "oHAnDAoDApHAoHAnEnGAoHAnHAnIoInJAoHAnKAoHAnLAnMAnNAoGAoNAoYAnOnPAoHAnRAoRAnSAoHAoSAnTAoHAoTA",
   "pHAnUoUnVAnYAgSIGN ANUSVARAlNUKTAlVIRAMAnSARGAgVOWEL SIGN AAsIsUrErIsIrOrUsUrVOCALIC R!R",
   "cLLAR SIGNdPHINcMINO TILE HORIZONTAL BACKw-00-00#1#2#3#4#5#6y1-00#1#2#3#4#5#6y2-00#1#2#3#4#5#6",
   "y3-00#1#2#3#4#5#6y4-00#1#2#3#4#5#6y5-00#1#2#3#4#5#6y6-00#1#2#3#4#5#6mVERTICAL BACKu-00-00z1z2",
   "z3z4z5z6w1-00z1z2z3z4z5z6w2-00z1z2z3z4z5z6w3-00z1z2z3z4z5z6w4-00z1z2z3z4z5z6w5-00z1z2z3z4z5z6",
   "w6-00z1z2z3z4z5z6cNG SIGNcORcT ABOVEeMINUSeOPERATORePLUSdTED CIRCLEiROSShFENCEhLINE FACE",
   "hOBELOShRIGHT-POINTING ANGLEhSOLIDUSiQUAREhTRANSPOSITION MARKERcUBLE ACUTE ACCENT",
   "hCIRCLED DIGIT EIGHTvFIVEwOURvNINEvONEvSEVENwIXvTHREEwWOpNUMBER TENiOLON EQUALiURLY LOOP",
   "hDAGGERiOWN TACKhEXCLAMATION MARKhHIGH-REVERSED-9 QUOTATION MARKiYPHENhINTEGRALlRSECTION",
   "hLEFT ARC GREATER-THAN BRACKETiOGICAL ANDpORjW LINEk-9 QUOTATION MARK",
   "lREVERSED-9 QUOTATION MARKhNESTED GREATER-THANoLESS-THANx WITH UNDERBARhOBLIQUE HYPHENhPLUS",
   "iRECEDESjIMEm QUOTATION MARKhQUESTION MARKhRIGHT ARC LESS-THAN BRACKEThSOLIDUS OPERATOR",
   "iQUARE INTERSECTIONoUNIONiTACKED COMMAjROKE NOT SIGNiUBSETjCCEEDSjPERSETjSPENSION MARKhUNION",
   "iP TACKhVERTICAL BARt DOUBLE LEFT TURNSTILE#RIGHT TURNSTILEuLEFT TURNSTILEqLINEhWAVY OVERLINE",
   "g-ENDED MULTIMAPhLINE EQUAL TO OR GREATER-THANyLESS-THANmSLANTED EQUAL TO OR GREATER-THAN",
   "+LESS-THANuGREATER-THAN OR EQUAL TOuLESS-THAN OR EQUAL TOhSTRUCK CAPITAL CwGAMMAwHwNwPxIwQwRwZ",
   "oITALIC CAPITAL DvSMALL D#E#I#JoN-ARY SUMMATIONoSMALL GAMMAuPIgD FEMALE SIGNiMALE SIGNiSYMBOL",
   "dGHNUTcVE OF PEACEcWN ARROWHEADfFISH TAILfRIGHT DIAGONAL ELLIPSISfTACKj WITH CIRCLE BELOW",
   "e-POINTING RED TRIANGLEoSMALL RED TRIANGLEoTRIANGLE WITH LEFT HALF BLACK$RIGHT HALF BLACK",
   "eWARD FACING HOOKu WITH DOTqNOTCHED HOOK$ WITH DOTiS ANCORAlRROWp AND RIGHT ONE EIGHTH BLOCK",
   "qFROM BARqLEFTWARDS OF UPWARDS ARROWqTO BARqWITH CORNER LEFTWARDSvDOUBLE STROKE",
   "vEQUILATERAL ARROWHEADvHORIZONTAL STROKEvLARGE TRIANGLE ARROWHEADvMEDIUM TRIANGLE ARROWHEAD",
   "vNOTCHED TAILvSMALL EQUILATERAL ARROWHEAD#TRIANGLE ARROWHEADvTIP LEFTWARDSzRIGHTWARDS",
   "kBLACK ARROWqCIRCLED WHITE ARROWkCOMPRESSED ARROWkDASHED ARROWlOUBLE ARROWkFINGER-POST ARROW",
   "kHARPOON WITH BARB LEFT BESIDE DOWNWARDS HARPOON WITH BARB RIGHT",
   "?UPWARDS HARPOON WITH BARB RIGHT,FROM BAR,TO BAR+WARDS$RIGHT FROM BAR.TO BAR,WARDSlEAVY ARROW",
   "qCOMPRESSED ARROWkPAIRED ARROWSkQUADRUPLE ARROWkROCKETkSANS-SERIF ARROWlQUARED ARROW",
   "kTRIANGLE ARROWHEADs-HEADED ARROW* LEFTWARDS OF UPWARDS TRIANGLE-HEADED ARROW+TO BAR",
   "+WITH BOLD SHAFT<DOUBLE HORIZONTAL STROKE<HEAVY SHAFT<LONG TIP LEFTWARDS(RIGHTWARDS",
   "<MEDIUM SHAFT<NARROW SHAFT<VERY HEAVY SHAFT!DASHED ARROW!PAIRED ARROWS!ZIGZAG ARROWnPLE ARROW",
   "lWO HEADED ARROWn-HEADED ARROW WITH TRIANGLE ARROWHEADSkWHITE ARROWv WITHIN TRIANGLE ARROWHEAD",
   "kZIGZAG ARROWbRACHMA SIGNdFTING POINT RIGHTWARDS ARROWdGONg FACEcESScIVE SLOW SIGN",
   "cOMEDARY CAMELdOLING FACEdP OF BLOODeLETcUM WITH DRUMSTICKSbUCKcMPLING",
   "cPLOYAN AFFIX ATTACHED E HOOKyI HOOKyLEFT-TO-RIGHT SECANTySECANTyTAIL!NGENT* HOOKpHIGH ACUTE",
   "uCIRCLEuDOTuGRAVEuLINEvONG GRAVEuTIGHT ACUTEuVERTICAL$ SECANTuWAVEpLEFT HORIZONTAL SECANT",
   "qOW ACUTEuRROWtCIRCLEtDOTtGRAVEtLINEuONG GRAVEtTIGHT ACUTEtVERTICAL# SECANTtWAVE",
   "pMID HORIZONTAL SECANTtVERTICAL SECANTpRIGHT HORIZONTAL SECANTjDOUBLE MARKjLETTER ArOUqBqDr S",
   "rHqErErUqFr NqGr R SqHrLqIrEqJr Mt SsNt SsSt WITH DOTsWITH DOT!S INSIDE AND ABOVEqKr MsR SrKqL",
   "rHrONG IvUqMr Nt SsSsWITH DOTqNr Mt SsSsWITH DOTrASAL AwIwOwUqOrArOHrUrWqPr NrERNIN AMyNqRr S",
   "rHrOMANIAN IzUqSr Jt SsKt RsMsNsPt RsSsTt RsWITH DOT! BELOWrHORT IrLOAN ANwDHwEExHxNwJwONxWwU",
   "qTr R SsSrHqUr NrHrIqVrOCALIC MqWr RrArEIrHrIrOsWqXrWqYEjPUNCTUATION CHINOOK FULL STOP",
   "jSIGN O WITH CROSSjTHICK LETTER SELECTORbVDaE-MAIL SYMBOLbAGLEcRd OF MAIZEhRICE",
   "eWITH HEARING AIDdTHf GLOBE AMERICASnSIA-AUSTRALIAmEUROPE-AFRICAhROUNDcST SYRIAC CROSS",
   "bDITORIAL CORONISbGGcYPTIAN HIEROGLYPH A001x2x3x4x5yAx6yAyBx7x8x9w10x1x2x3x4yAx5x6x7yAx8x9w20",
   "x1x2x3x4x5x6x7x8x9w30x1x2yAx3x4x5x6x7x8x9w40yAx1x2yAx3yAx4x5yAx6x7x8x9w50x1x2x3x4x5x6x7x8x9w60",
   "x1x2x3x4x5x6x7x8x9w70vA001y2y3y4y5y6y7zAzBy8y9x10y1y2y3y4y5y6y7y8y9x20y1y2y3y4y5y6y7y8y9x30y1",
   "y2uB001x2x3x4x5yAx6x7x8x9vEGIN SEGMENTuC001x2yAyByCx3x4x5x6x7x8x9w10yAx1x2x3x4x5x6x7x8x9w20x1",
   "x2x3x4uD001x2x3x4x5x6x7x8yAx9w10x1x2x3x4x5x6x7x8x9w20x1x2x3x4x5x6x7yAx8x9w30x1yAx2x3x4yAx5x6x7",
   "x8x9w40x1x2x3x4x5x6yAx7x8yAx9w50yAyByCyDyEyFyGyHyIx1x2yAx3x4yAx5x6x7x8x9w60x1x2x3x4x5x6x7yAyB",
   "yCyDyEyFyGyHuE001x2x3x4x5x6x7x8yAx9yAw10x1x2x3x4x5x6yAx7yAx8x9w20yAx1x2x3x4x5x6x7x8yAx9w30x1x2",
   "x3x4yAx6x7x8vND SEGMENTuF001yAx2x3x4x5x6x7x8x9w10x1x2x3yAx4x5x6x7x8x9w20x1yAx2x3x4x5x6x7x8x9",
   "w30x1yAx2x3x4x5x6x7yAx8yAx9w40x1x2x3x4x5yAx6yAx7yAx8x9w50x1yAyByCx2x3uG001x2x3x4x5x6yAx7yAyBx8",
   "x9w10x1yAx2x3x4x5x6x7x8x9w20yAx1x2x3x4x5x6yAx7x8x9w30x1x2x3x4x5x6yAx7yAx8x9w40x1x2x3yAx4x5yAx6",
   "x7x8x9w50x1x2x3x4uH001x2x3x4x5x6yAx7x8vORIZONTAL JOINERuI001x2x3x4x5yAx6x7x8x9yAw10yAx1yAx2x3",
   "x4x5vNSERT AT BOTTOM END<START&TOP END.STARTuK001x2x3x4x5x6x7x8uL001x2yAx3x4x5x6yAx7x8uM001yA",
   "yBx2x3yAx4x5x6x7x8x9w10yAx1x2yAyByCyDyEyFyGyHx3x4x5yAx6yAx7yAx8x9w20x1x2yAx3x4yAx5x6x7x8yAx9",
   "w30x1yAx2x3yAyBx4x5x6x7x8x9w40yAx1x2x3x4uN001x2x3x4x5x6x7x8x9w10x1x2x3x4x5x6x7x8yAyBx9w20x1x2",
   "x3x4x5yAx6x7x8x9w30x1x2x3yAx4yAx5yAx6x7yAx8x9w40x1x2vL001y2y3y4y5zAy6y7y8y9x10y1y2y3y4y5y6y7zA",
   "y8y9x20vU001y2y3y4y5y6y7y8y9x10zAy1zAy2y3y4y5y6y7y8zAy9x20y1y2zAuO001yAx2x3x4x5yAx6yAyByCyDyE",
   "yFx7x8x9w10yAyByCx1x2x3x4x5x6x7x8x9yAw20yAx1x2x3x4yAx5yAx6x7x8x9yAw30yAx1x2x3yAx4x5x6yAyByCyD",
   "x7x8x9w40x1x2x3x4x5x6x7x8x9w50yAyBx1vVERLAY MIDDLEuP001yAx2x3yAx4x5x6x7x8x9w10x1uQ001x2x3x4x5",
   "x6x7uR001x2yAx3yAyBx4x5x6x7x8x9w10yAx1x2x3x4x5x6yAx7x8x9w20x1x2x3x4x5x6x7x8x9uS001x2yAx3x4x5x6",
   "yAx7x8x9w10x1x2x3x4yAyBx5x6x7yAx8x9w20x1x2x3x4x5x6yAyBx7x8x9w30x1x2x3x4x5yAx6x7x8x9w40x1x2x3x4",
   "x5x6uT001x2x3yAx4x5x6x7yAx8yAx9yAw10x1yAx2x3x4x5x6yAx7x8x9w20x1x2x3x4x5x6x7x8x9w30x1x2yAx3yAx4",
   "x5x6uU001x2x3x4x5x6yAyBx7x8x9w10x1x2x3x4x5x6x7x8x9w20x1x2x3yAx4x5x6x7x8x9yAw30x1x2yAx3x4x5x6x7",
   "x8x9w40x1x2uV001yAyByCyDyEyFyGyHyIx2yAx3x4x5x6x7yAyBx8x9w10x1yAyByCx2yAyBx3x4x5x6x7x8x9w20yAyB",
   "yCyDyEyFyGyHyIyJyKyLx1x2x3yAx4x5x6x7x8yAx9yAw30yAx1yAx2x3yAx4x5x6x7yAx8x9w40yAvERTICAL JOINER",
   "uW001x2x3yAx4x5x6x7x8x9yAw10yAx1x2x3x4yAx5x6x7yAx8yAx9w20x1x2x3x4yAx5uX001x2x3x4yAyBx5x6yAx7x8",
   "yAuY001yAx2x3x4x5x6x7x8uZ001x2yAyByCyDx3yAyBx4yAx5yAx6x7x8x9w10x1x2x3x4x5yAyByCyDyEyFyGyHyIx6",
   "yAyByCyDyEyFyGyHbIGHT PETALLED OUTLINED BLACK FLORETTEhOINTED BLACK STARoPINWHEEL STAR",
   "oRECTILINEAR BLACK STARgSPOKED ASTERISKgTEARDROP-SPOKED PROPELLER ASTERISKfH NOTEbJECT SYMBOL",
   "bLBASAN LETTER ApBEpCEqHEpDEqHEpEqIpFEpGEqHAMMArEqJEpHEpIpJEpKEqHEpLEqLEpMEpNAqDEqEqJEpOpPEpQE",
   "pREqREpSEqHEpTEqHEpUpVEpXEpYpZEqHEcECTRIC ARROWjLIGHT BULBjPLUGjTORCHiAL INTERSECTIONdMENT OF",
   "k OPENING DOWNWARDStUPWARDSlWITH DOT ABOVEqLONG HORIZONTAL STROKEqOVERBAR",
   "qTWO HORIZONTAL STROKESqUNDERBARqVERTICAL BAR AT END OF HORIZONTAL STROKEdPHANTdVATORcF",
   "cYMAIC LETTER ALEPHqYINpBETHpDALETHpGIMELpHErTHpKAPHpLAMEDHpMEMpNUNpPEpQOPHpRESHpSADHErMEKH",
   "qHINpTAWqETHpWAWpYODHpZAYINjIGATURE ZAYIN-YODHbM DASHdQUADdSPACEcOJI COMPONENT BALDqCURLY HAIR",
   "qRED HAIRqWHITE HAIRgMODIFIER FITZPATRICK TYPE-1-2+3+4+5+6cPHASIS SYMBOLdTY DOCUMENTgNESThOTE",
   "k PADnGEgPAGEkSgSETj WITH LEFT ARROW ABOVEpOVERBARpRIGHT ARROW ABOVEpSMALL CIRCLE ABOVEbN DASH",
   "dQUADdSPACEcD OF GUARDED AREAhLINEhMEDIUMhPROOFkTECTED AREAhSELECTED AREAhTEXTiRANSMISSION",
   "t BLOCKeWITH LEFTWARDS ARROW ABOVEcQdUIRYcTER SYMBOLcVELOPEi WITH DOWNWARDS ARROW ABOVE",
   "oLIGHTNINGbOLcMcTbPAbQUAL AND PARALLEL TOgTO BY DEFINITIONjOR GREATER-THANmLESS-THANmPRECEDES",
   "mSUCCEEDSfS COLONhSIGNl ABOVE LEFTWARDS ARROWsPLUS SIGNsRIGHTWARDS ARROWsTILDE OPERATOR",
   "nND SLANTED PARALLEL+ WITH TILDE ABOVEmWITH BUMPY ABOVErDOT BELOWrINFINITY BELOW",
   "rTWO DOTS ABOVE AND TWO DOTS BELOWhWITH ASTERISKdIANGULAR TOeVALENT TOlWITH FOUR DOTS ABOVE",
   "bRASE TO THE LEFTnRIGHTcIS FORM ONEkTWOcROR-BARRED BLACK CIRCLEtDIAMONDtSQUAREnWHITE CIRCLE",
   "tDIAMONDtSQUAREbSAcCdAPEcTIMATED SYMBOLiSbTBcHIOPIC COLON",
   "lMBINING GEMINATION AND VOWEL LENGTH MARK&MARKtVOWEL LENGTH MARKmMAjDIGIT EIGHTpFIVEqOURpNINE",
   "pONEpSEVENqIXpTHREEqWOjFULL STOPjNUMBER EIGHTYqFIFTYrORTYqHUNDREDqNINETYqSEVENTYrIXTYqTEN",
   "t THOUSANDrHIRTYrWENTYjPARAGRAPH SEPARATORkREFACE COLONjQUESTION MARKjSECTION MARKlMICOLON",
   "kYLLABLE BAuAtBAvAuEvEuIuOuUtEuEtItOuAtUtWAuEvEuIsCAuAtCAvAuEvEuHAwAvEwEvHAxAwExEwIwOwUvIvOvU",
   "uIuOuUtEuEtHAvAuEvEuIuOvAuUuWAtItOuAtUtWAsDAuAtDAvAuEvEuHAAvEwEvIvOvUuIuOvAuUuWAtEuEtItOuAtU",
   "tWAtZAAuEvEuIuOuUsFAuAtEuEtItOtUtWAuEvEuItYAsGAuAtEuEtGAvAuEvEuIuOuUuWAwAvEwEvItItLOTTAL A#A!E",
   "#E!I!O#A!U!WAtOuAtUuRAGE BWEE#IzFWEE#IzGWE$E#IzHHWAzKWE$E#IzMWEE#IzPWEE#IzQWE$E#ItWAvAuEvEuI",
   "tYAvAuEvEuIuOuUsHAuAtEuEtHAvAuEvEuIuOuUuWAvEwEvIuYAwAvEwEvIvOvUtItOuAtUsJAuAtEuEtItOuAtUtWAsKA",
   "uAtEuEtItOuAtUtWAvAuEvEuItXAvAuEvEuIuOuUuWAwAvEwEvItYAvAuEvEuIuOuUsLAuAtEuEtItOuAtUtWAsMAuAtE",
   "uEtItOuAtUtWAuEvEuItYAsNAuAtEuEtItOuAtUtWAtYAvAuEvEuIuOvAuUuWAsPAuAtEuEtHAvAvRYNGEAL A&A%E&E%I",
   "%O%UuEvEuIuOvAuUuWAtItOuAtUtWAuEvEuIsQAuAtEuEtHAvAuEvEuIuOuUuWAwAvEwEvItItOuAtUtWAvAuEvEuItYA",
   "vAuEvEuIuOuUsRAuAtEuEtItOuAtUtWAtYAsSAuAtEuBATBEIT BWA$FWA$MWA$PWAuEtHAvAuEvEuIuOvAuUuWAtItOuA",
   "tSAvAuEvEuIuOuUtUtWAtZAvAuEvEuIuOuUuWAsTAuAtEuEtHAvAuEvEuIuOvAuUuWAtItOuAtSAvAuEvEuIuOuUuWA",
   "tTHAAvEwEvIvOvUtUtWAtZAvAuEvEuIuOvAuUsVAuAtEuEtItOtUtWAsWAuAtEuEtItOuAtUsXAuAtEuEtItOuAtUtWAvA",
   "uEvEuItYAvAuEvEuIuOuUsYAuAtEuEtItOuAtUsZAuAtEuEtHAvAuEvEuIuOuUuWAtItOuAtUtWAtZAvAuEvEuIuOuU",
   "jTONAL MARK CHIRETuDERETz-HIDETvIFATuHIDETuKENATvURTuRIKRIKuSHORT RIKRIKuYIZETjWORDSPACEcX",
   "bULER CONSTANTcRO SIGNe-CURRENCY SIGNePEAN CASTLEjPOST OFFICEbVERGREEN TREEbXCESS",
   "dLAMATION MARKmQUESTION MARKcPRESSIONLESS FACEcTENDED ARABIC-INDIC DIGIT EIGHT$FIVE%OUR$NINE",
   "$ONE$SEVEN%IX$THREE%WO$ZEROdRATERRESTRIAL ALIENeEMELY HEAVY FIVE SPOKED ASTERISKqGREEK CROSS",
   "qSALTIRErIX SPOKED ASTERISKqWHITE CIRCLEwSQUAREbYEdGLASSESdSaFACE HOLDING BACK TEARSfMASSAGE",
   "fPALMfSAVOURING DELICIOUS FOODgCREAMING IN FEARfTHROWING A KISSfWITH COLD SWEATmWBOY HAT",
   "kDIAGONAL MOUTHkFINGER COVERING CLOSED LIPSkHEAD-BANDAGEkLOOK OF TRIUMPHkMEDICAL MASKlONOCLE",
   "kNO GOOD GESTUREkOK GESTURElNE EYEBROW RAISEDlPEN EYES AND HAND OVER MOUTHpMOUTH",
   "u AND COLD SWEATvVOMITINGkPARTY HORN AND PARTY HATlEEKING EYElLEADING EYESkROLLING EYES",
   "kSTUCK-OUT TONGUE! AND TIGHTLY-CLOSED EYES*WINKING EYEkTEARS OF JOYlHERMOMETER",
   "kUNEVEN EYES AND WAVY MOUTHjOUT MOUTHdSIMILE SIGNdTORYcIRYcLAFELdLEN LEAF",
   "eING DIAGONAL CROSSING NORTH EAST ARROW!RISING DIAGONALrIN WHITE CIRCLE IN BLACK SQUAREcMILY",
   "cRSI SYMBOLcTHER CHRISTMAScX ICONeMACHINEbEARFUL FACEdTHERcMALE SIGNdININE ORDINAL INDICATOR",
   "cNCERcRRIS WHEELeYbFbIELD HOCKEY STICK AND BALLcGURE DASHhSPACEcLE CABINETfFOLDERfSEPARATOR",
   "dM FRAMESfPROJECTORcNITE PART INTEGRALcREe ENGINEgXTINGUISHEReCRACKEReWORK SPARKLERiS",
   "dST PLACE MEDALgQUARTER MOONs SYMBOLtWITH FACEgSTRONG ISOLATEcSHe CAKE WITH SWIRL DESIGNeEYE",
   "eING POLE AND FISHdTED HAND SIGNcVE DOT MARKjPUNCTUATIONbLAG IN HOLEdMINGOdT SHOEeBREADeNESS",
   "cEUR-DE-LISdXED BICEPScOPPY DISKdRAL HEARTdWERg PLAYING CARDSiUNCTUATION MARKcUSHED FACEcY",
   "dING DISChENVELOPEhSAUCERbOGdGYcLDERcNDUEcOTePRINTScR ALLdCESdK AND KNIFEo WITH PLATE",
   "eED PARAGRAPHOSeINGdM FEEDdTUNE COOKIEcUNTAINdR BALLOON-SPOKED ASTERISKfCLUB-SPOKED ASTERISK",
   "gORNER ARROWS CIRCLING ANTICLOCKWISEfDOT MARKjPUNCTUATIONfLEAF CLOVERfPOINTED BLACK STAR",
   "fTEARDROP-SPOKED ASTERISKe-PER-EM SPACEeTH ROOTcX FACEbRACTION NUMERATOR ONEjSLASH",
   "dME WITH AN XlPICTURElTILEScEEZING FACEdNCH FRANC SIGNjIEScIED SHRIMPcOG FACE",
   "dNT-FACING BABY CHICKgTILTED SHADOWED WHITE RIGHTWARDS ARROWdWNfING FACE WITH OPEN MOUTHbScI",
   "bUEL PUMPcLL BLOCKfMOON SYMBOLkWITH FACEfOUTER JOINfSTOPeWIDTH AMPERSANDlPOSTROPHElSTERISK",
   "kBROKEN BARkCENT SIGNlIRCUMFLEX ACCENTlOLONmMMAoERCIAL ATkDIGIT EIGHTqFIVErOURqNINEqONEqSEVEN",
   "rIXqTHREErWOqZEROlOLLAR SIGNkEQUALS SIGNlXCLAMATION MARKkFULL STOPkGRAVE ACCENT",
   "mEATER-THAN SIGNkHYPHEN-MINUSkLATIN CAPITAL LETTER A*B*C*D*E*F*G*H*I*J*K*L*M*N*O*P*Q*R*S*T*U*V",
   "*W*X*Y*ZqSMALL LETTER A%B%C%D%E%F%G%H%I%J%K%L%M%N%O%P%Q%R%S%T%U%V%W%X%Y%ZlEFT CURLY BRACKET",
   "pPARENTHESISpSQUARE BRACKETpWHITE PARENTHESISmSS-THAN SIGNlOW LINEkMACRONkNOT SIGNlUMBER SIGN",
   "kPERCENT SIGNlLUS SIGNlOUND SIGNkQUESTION MARKmOTATION MARKkREVERSE SOLIDUSlIGHT CURLY BRACKET",
   "qPARENTHESISqSQUARE BRACKETqWHITE PARENTHESISkSEMICOLONlOLIDUSkTILDEkVERTICAL LINEkWON SIGN",
   "kYEN SIGNcNCTION APPLICATIONdERAL URNcSEbVS1d2d3d4aGAME DIEcRLICbEARe WITH HANDLESjOUT HUB",
   "cM STONEdINIcNIEcOMETRIC PROPORTIONjALLY EQUAL TOrIVALENT TOdRGIAN CAPITAL LETTER AENzNyBAN",
   "yCANzHAR!INzILyDONyENyGANzHANyHAE!RzEzIEzOEyINyJHANzILyKANzHARyLASyMANyNARyONyPARzHARyQARyRAE",
   "ySANzHINyTAN!RyUNyVINyWEyXANyYNyZENzHARjLETTER AENrINrNqBANqCANrHARsINrILqDONqELIFIrNqFIqGAN",
   "rHANqHAEsRtD SIGNrErIErOEqINqJHANrILqKANrHARqLABIAL SIGNsSqMANqNARqONqPARrHARqQARqRAEqSANrHIN",
   "qTANsRrURNED GANqUNqVINqWEqXANqYNqZENrHARjMTAVRULI CAPITAL LETTER AEN.IN.N,BAN,CAN.HAR:IN.IL",
   ",DON,ELIFI.N,FI,GAN.HAN,HAE:R;D SIGN.E.IE.OE,IN,JHAN.IL,KAN.HAR,LABIAL SIGN:S,MAN,NAR,ON,PAR",
   ".HAR,QAR,RAE,SAN.HIN,TAN:R.URNED GAN,UN,VIN,WE,XAN,YN,ZEN.HARjPARAGRAPH SEPARATOR",
   "jSMALL LETTER AENxNwBANwCANxHARyINxILwDONwENwGANxHANwHAEyRxExIExOEwINwJHANxILwKANxHARwLASwMAN",
   "wNARwONwPARxHARwQARwRAEwSANxHINwTANyRwUNwVINwWEwXANwYNwZENxHARcRMAN PENNY SIGNcTA MARKbHOST",
   "bIMEL SYMBOLcRAFFE FACEdLeS SYMBOLbLAGOLITIC CAPITAL LETTER AZU!BIG YUS#UKY!CAUDATE CHRIVI",
   "#HRIVI!DJERVI#OBRO#ZELO!FITA#RITU!GLAGOLI!HERU!I#NITIAL IZHE#OTATED BIG YUS.SMALL YUS#ZHE%ITSA",
   "!KAKO!LATINATE MYSLITE#JUDIJE!MYSLITE!NASHI!ONU#TU!PE#OKOJI!RITSI!SHA$TA&PIC#LOVO#MALL YUS",
   ": WITH TAIL#PIDERY HA!TROKUTASTI A#SI#VRIDO!UKU!VEDE!YATI#ERI%U$STU#O#U!ZEMLJA#HIVETE",
   "lSMALL LETTER AZUyBIG YUSzUKYyCAUDATE CHRIVIzHRIVIyDJERVIzOBROzZELOyFITAzRITUyGLAGOLIyHERUyI",
   "zNITIAL IZHEzOTATED BIG YUS+SMALL YUSzZHE#ITSAyKAKOyLATINATE MYSLITEzJUDIJEyMYSLITEyNASHIyONU",
   "zTUyPEzOKOJIyRITSIySHA!TA$PICzLOVOzMALL YUS, WITH TAILzPIDERY HAyTROKUTASTI AzSIzVRIDOyUKU",
   "yVEDEyYATIzERI#U!STUzOzUyZEMLJAzHIVETEdSS OF MILKcEICH STARKcOBE WITH MERIDIANSdVESdWING STAR",
   "bOAL NETdTcGGLEScLFERcRILLAcTHIC LETTER AHSApIHVUSoBAIRKANoDAGSoEISoFAIHUoGIBAoHAGLpWAIRoIGGWS",
   "pUJAoJERoKUSMAoLAGUSoMANNAoNAUTHSpINE HUNDREDsTYoOTHALoPAIRTHRAoQAIRTHRAoRAIDAoSAUILoTEIWS",
   "pHIUTHoURUSoWINJAbRADUATION CAPdNTHA AU LENGTH MARKiLETTER AqAqIqUpBAqHApCAqHApDAqDArHAqHApEE",
   "pGAqHApHApIqIpJAqHApKAqHApLAqLApMApNAqGAqNAqYApOOpPAqHApRApSAqHAqSApTAqHAqTArHApUqUpVA",
   "qEDIC ANUSVARAvDOUBLE ANUSVARAqOCALIC LyLxRyRpYAiOMiSIGN ANUSVARAoVAGRAHAnCANDRABINDU",
   "oOMBINING ANUSVARA ABOVEnNUKTAnPLUTAnVIRAMApSARGAiVOWEL SIGN AAuIuUtEEtIuItOOtUuUtVOCALIC L$L",
   "#R$RdPESdVE ACCENTcEATER-THAN ABOVE DOUBLE-LINE EQUAL ABOVE LESS-THAN",
   "tLESS-THAN ABOVE DOUBLE-LINE EQUALtRIGHTWARDS ARROWtSIMILAR ABOVE LESS-THAN#OR EQUAL",
   "uLANTED EQUAL ABOVE LESS-THAN ABOVE SLANTED EQUALoND NOT APPROXIMATErSINGLE-LINE NOT EQUAL TO",
   "nBESIDE LESS-THANoUT NOT EQUAL TOyIVALENT TOnCLOSED BY CURVE$ ABOVE SLANTED EQUAL",
   "nEQUAL TO OR LESS-THANnOR APPROXIMATEqEQUAL TOtIVALENT TOqLESS-THANqSLANTED EQUAL TO",
   "+ WITH DOT ABOVE) LEFT^INSIDEoVER EQUAL TOrLAPPING LESS-THANnSIGNnWITH CIRCLE INSIDEsDOT",
   "sQUESTION MARK ABOVEdEK ACROPHONIC ATTIC FIFTY$ STATERS%TALENTS&HOUSAND< STATERSzVE# HUNDRED",
   ": STATERS;TALENTS$STATERS$TALENTS%HOUSAND; TALENTSxONE DRACHMA#HALF$UNDRED STATERS:TALENTS",
   "#QUARTER#THOUSAND STATERS;TALENTSxTEN MNAS#STATERS#TALENTS$HOUSAND STATERS",
   "rCARYSTIAN FIVE HUNDREDsYRENAIC TWO DRACHMASrDELPHIC FIVE MNASrEPIDAUREAN FIVE HUNDRED$TWO",
   "* DRACHMASrHERAEUM ONE PLETHRONuMIONIAN FIFTY$ONE$TENrMESSENIAN TENrNAXIAN FIVE HUNDRED",
   "rSTRATIAN FIFTY MNASrTHESPIAN FIFTY$VE HUNDRED*THOUSAND!ONE% HUNDRED&THOUSAND!TEN#HIRTY",
   "$REE HUNDRED#WOsROEZENIAN FIFTY, ALTERNATE FORM&VE+ HUNDRED$TEN* ALTERNATE FORMhNO TELEIA",
   "hROURA SIGNiTABE SIGNgBETA SYMBOLgCAPITAL DOTTED LUNATE SIGMA SYMBOLoKAI SYMBOLoLETTER ALPHA",
   "! WITH DASIA< AND OXIA( AND PROSGEGRAMMENI^PERISPOMENI)POMENI AND PROSGEGRAMMENI_ROSGEGRAMMENI",
   "^VARIA) AND PROSGEGRAMMENI+MACRON+OXIA+PROSGEGRAMMENI,SILI< AND OXIA( AND PROSGEGRAMMENI",
   "^PERISPOMENI)POMENI AND PROSGEGRAMMENI_ROSGEGRAMMENI^VARIA) AND PROSGEGRAMMENI+TONOS+VARIA",
   ",RACHYwRCHAIC SAMPIvBETAvCHIvDELTAvEPSILON$ WITH DASIA> AND OXIA|VARIA.OXIA.PSILI> AND OXIA",
   "|VARIA.TONOS.VARIAwTAy WITH DASIA: AND OXIA| AND PROSGEGRAMMENI?PERISPOMENI",
   ")MENI AND PROSGEGRAMMENI@ROSGEGRAMMENI?VARIA~ AND PROSGEGRAMMENI&OXIA&PROSGEGRAMMENI*SILI",
   ": AND OXIA| AND PROSGEGRAMMENI?PERISPOMENI)MENI AND PROSGEGRAMMENI@ROSGEGRAMMENI?VARIA",
   "~ AND PROSGEGRAMMENI&TONOS&VARIAvGAMMAvHETAvIOTAz WITH DASIA; AND OXIA@PERISPOMENI@VARIA",
   "+IALYTIKA*MACRON*OXIA*PSILI; AND OXIA@PERISPOMENI@VARIA*TONOS*VARIA+RACHYvKAPPAvLAMDAvMUvNU",
   "vOMEGA! WITH DASIA< AND OXIA( AND PROSGEGRAMMENI^PERISPOMENI)POMENI AND PROSGEGRAMMENI",
   "_ROSGEGRAMMENI^VARIA) AND PROSGEGRAMMENI+OXIA+PROSGEGRAMMENI,SILI< AND OXIA",
   "( AND PROSGEGRAMMENI^PERISPOMENI)POMENI AND PROSGEGRAMMENI_ROSGEGRAMMENI^VARIA",
   ") AND PROSGEGRAMMENI+TONOS+VARIAxICRON$ WITH DASIA> AND OXIA|VARIA.OXIA.PSILI> AND OXIA|VARIA",
   ".TONOS.VARIAvPAMPHYLIAN DIGAMMAwHIwIwSIvRHOy WITH DASIAvSANwHOwIGMAvTAUwHETAvUPSILON",
   "$ WITH DASIA> AND OXIA|PERISPOMENI|VARIA:IALYTIKA.MACRON.OXIA.TONOS.VARIA:RACHYvXIvYOTvZETA",
   "pUNATE SIGMA SYMBOLoREVERSED DOTTED LUNATE SIGMA SYMBOLxLUNATE SIGMA SYMBOLoTHETA SYMBOLgDASIA",
   "l AND OXIAqPERISPOMENIqVARIAhIALYTIKA AND OXIAuPERISPOMENIuVARIAqTONOShRACHMA SIGN",
   "gFIVE OBOLS SIGNhOUR OBOLS SIGNgGRAMMA SIGNgINDICTION SIGNiSTRUMENTAL NOTATION SYMBOL-1;1;2;3",
   ";4;7;8;9:2;3;4;5;6;7;9:30;2;6;7;8;9:4;0;2;3;5;7;8;9:5;0;1;2;3;4:7:8gKAI SYMBOLiPPA SYMBOL",
   "hORONIShYATHOS BASE SIGNgLETTER ARCHAIC KOPPAnDIGAMMAnKOPPAnSAMPIoMALL CAPITAL GAMMA#LAMDA",
   "#OMEGA#PI$SI#RHOoTIGMAnYOThITRA SIGNhOWER NUMERAL SIGNhUNATE EPSILON SYMBOLnSIGMA SYMBOL",
   "gMETRETES SIGNhUSICAL LEIMMAgNUMERAL SIGNgOBOL SIGNhNE HALF SIGNt ALTERNATE FORMkQUARTER SIGN",
   "hUNKIA SIGNhXIAgPERISPOMENIhHI SYMBOLhI SYMBOLhROSGEGRAMMENIhSILIl AND OXIAqPERISPOMENIqVARIA",
   "gQUESTION MARKgREVERSED LUNATE EPSILON SYMBOLhHO SYMBOLkWITH STROKE SYMBOLgSINUSOID SIGN",
   "hMALL DOTTED LUNATE SIGMA SYMBOLmLETTER ALPHAy WITH DASIA: AND OXIA| AND YPOGEGRAMMENI",
   "?PERISPOMENI)MENI AND YPOGEGRAMMENI?VARIA~ AND YPOGEGRAMMENI?YPOGEGRAMMENI&MACRON&OXIA",
   ". AND YPOGEGRAMMENI&PERISPOMENI@ AND YPOGEGRAMMENI*SILI: AND OXIA| AND YPOGEGRAMMENI",
   "?PERISPOMENI)MENI AND YPOGEGRAMMENI?VARIA~ AND YPOGEGRAMMENI?YPOGEGRAMMENI&TONOS&VARIA",
   ": AND YPOGEGRAMMENI*RACHY&YPOGEGRAMMENIuRCHAIC KOPPA#SAMPItBETAtCHItDELTAuIGAMMAtEPSILON",
   "! WITH DASIA< AND OXIA^VARIA+OXIA+PSILI< AND OXIA^VARIA+TONOS+VARIAuTAw WITH DASIA, AND OXIA",
   "^ AND YPOGEGRAMMENI=PERISPOMENI)NI AND YPOGEGRAMMENI=VARIA_ AND YPOGEGRAMMENI=YPOGEGRAMMENI",
   "$OXIA+ AND YPOGEGRAMMENI$PERISPOMENI> AND YPOGEGRAMMENI%SILI, AND OXIA^ AND YPOGEGRAMMENI",
   "=PERISPOMENI)NI AND YPOGEGRAMMENI=VARIA_ AND YPOGEGRAMMENI=YPOGEGRAMMENI$TONOS$VARIA",
   ", AND YPOGEGRAMMENI$YPOGEGRAMMENItFINAL SIGMAtGAMMAtHETAtIOTAx WITH DASIA. AND OXIA",
   ">PERISPOMENI>VARIA&IALYTIKA= AND OXIA_PERISPOMENI_TONOS_VARIA%MACRON%OXIA%PERISPOMENI&SILI",
   ". AND OXIA>PERISPOMENI>VARIA%TONOS%VARIA&RACHYtKAPPAuOPPAtLAMDAtMUtNUtOMEGAy WITH DASIA",
   ": AND OXIA| AND YPOGEGRAMMENI?PERISPOMENI)MENI AND YPOGEGRAMMENI?VARIA~ AND YPOGEGRAMMENI",
   "?YPOGEGRAMMENI&OXIA. AND YPOGEGRAMMENI&PERISPOMENI@ AND YPOGEGRAMMENI*SILI: AND OXIA",
   "| AND YPOGEGRAMMENI?PERISPOMENI)MENI AND YPOGEGRAMMENI?VARIA~ AND YPOGEGRAMMENI?YPOGEGRAMMENI",
   "&TONOS&VARIA: AND YPOGEGRAMMENI&YPOGEGRAMMENIvICRON! WITH DASIA< AND OXIA^VARIA+OXIA+PSILI",
   "< AND OXIA^VARIA+TONOS+VARIAtPAMPHYLIAN DIGAMMAuHIuIuSItRHOw WITH DASIA$PSILItSAMPIvNuHOuIGMA",
   "uTIGMAtTAUuHETAtUPSILON! WITH DASIA< AND OXIA^PERISPOMENI^VARIA,IALYTIKA@ AND OXIA(PERISPOMENI",
   "(TONOS(VARIA+MACRON+OXIA+PERISPOMENI,SILI< AND OXIA^PERISPOMENI^VARIA+TONOS+VARIA,RACHYtXI",
   "tZETAmREVERSED DOTTED LUNATE SIGMA SYMBOLvLUNATE SIGMA SYMBOLhUBSCRIPT SMALL LETTER BETA%CHI",
   "%GAMMA%PHI%RHOhYMBOL TAU RHOgTALENT SIGNhHETA SYMBOLiREE OBOLS SIGNmQUARTERS SIGNhONOS",
   "hRYBLION BASE SIGNhWO OBOLS SIGNkTHIRDS SIGNgUPSILON WITH ACUTE AND HOOK SYMBOL",
   "tDIAERESIS AND HOOK SYMBOLtHOOK SYMBOLgVARIAhOCAL NOTATION SYMBOL-1%0%1%2%3%4%5%6%7%8%9$2%0%1",
   "%2%3%4$3$4$5%0%1%2%3%4$6$7$8$9gXESTES SIGNgYEAR SIGNhPOGEGRAMMENIgZERO SIGNeN APPLEgBOOKgHEART",
   "gSALADcIMACING FACEdNNING CAT FACE WITH SMILING EYESjFACEn WITH ONE LARGE AND ONE SMALL EYE",
   "tSMILING EYESuTAR EYEScOUP MARKgSEPARATORdWING HEARTbSbUARANI SIGNeDSMANcIDE DOGdTAR",
   "cJARATI ABBREVIATION SIGNjDIGIT EIGHTpFIVEqOURpNINEpONEpSEVENqIXpTHREEqWOpZEROjLETTER ArArIrU",
   "qBArHAqCArHAqDArDAsHArHAqEqGArHAqHAqIrIqJArHAqKArHAqLArLAqMAqNArGArNArYAqOqPArHAqRAqSArHArSA",
   "qTArHArTAsHAqUrUqVArOCALIC LzLyRzRqYAqZHAjOMjRUPEE SIGNjSIGN ANUSVARApVAGRAHAoCANDRABINDU",
   "pIRCLE NUKTA ABOVEoMADDAHoNUKTAoSHADDApUKUNoTHREE-DOT NUKTA ABOVEpWO-CIRCLE NUKTA ABOVEoVIRAMA",
   "qSARGAjVOWEL CANDRA EwOpSIGN AAvIvUuCANDRA E#OuEuIvIuOuUvUuVOCALIC L%L$R%R",
   "cNJALA GONDI DIGIT EIGHTuFIVEvOURuNINEuONEuSEVENvIXuTHREEvWOuZEROoLETTER AwAwIwUvBAwHAvCAwHA",
   "vDAwDAxHAwHAvEEvGAwHAvHAvIwIvJAwHAvKAwHAvLAwLAvMAvNAwGAvOOvPAwHAvRAvSAvTAwHAwTAxHAvUwUvVAvYA",
   "oOMoSIGN ANUSVARAtVISARGAoVIRAMApOWEL SIGN AA!I!UzEEzI!IzOOzU!UcRMUKHI ABBREVIATION SIGNkDDAK",
   "jDIGIT EIGHTpFIVEqOURpNINEpONEpSEVENqIXpTHREEqWOpZEROjEK ONKARjIRIjLETTER ArArIrUqBArHAqCArHA",
   "qDArDAsHArHAqEEqFAqGArHAsHAqHAqIrIqJArHAqKArHAsHAqLArLAqMAqNArGArNArYAqOOqPArHAqRArRAqSArHAqTA",
   "rHArTAsHAqUrUqVAqYAqZAjSIGN ADAK BINDIoBINDIoNUKTAoUDAAToVIRAMAqSARGAoYAKASHjTIPPIjURA",
   "jVOWEL SIGN AAvIvUuEEuIvIuOOuUvUaHADEScIR SPACEeCUTcLFWIDTH BLACK SQUAREkDOWNWARDS ARROW",
   "kFORMS LIGHT VERTICALkHANGUL FILLERrLETTER AzEyCHIEUCHzIEUCyEzOzUyHIEUHyIzEUNGyKHIEUKHzIYEOK",
   "&-SIOSyMIEUMyNIEUN%-CIEUC&HIEUHyOzEyPHIEUPHzIEUP%-SIOSyRIEUL%-HIEUH&KIYEOK&MIEUM&PHIEUPH*IEUP",
   "&SIOS&THIEUTHySIOSzSANGCIEUC%KIYEOK%PIEUP%SIOS%TIKEUTyTHIEUTHzIKEUTyUyWA!EzE!OzIyYA!EzE!OzIzO",
   "zUkIDEOGRAPHIC COMMAwFULL STOPkKATAKANA LETTER A!E!HA#E#I#O#U!I!KA#E#I#O#U!MA#E#I#O#U!N#A#E#I",
   "#O#U!O!RA#E#I#O#U!SA#E#I#MALL A+E+I+O+TU+U+YA,O,U#O#U!TA#E#I#O#U!U!WA#O!YA#O#UtMIDDLE DOT",
   "tSEMI-VOICED SOUND MARKtVOICED SOUND MARKs-HIRAGANA PROLONGED SOUND MARKkLEFT CORNER BRACKET",
   "oWARDS ARROWkRIGHT CORNER BRACKETpWARDS ARROWkUPWARDS ARROWkWHITE CIRCLEcMBURGERdMERg AND PICK",
   "lSICKLElWRENCHdSAeTER FACEcND WITH INDEX AND MIDDLE FINGERS CROSSEDqFINGER AND THUMB CROSSED",
   "eBAGgLLeSHAKEdGUL CHOSEONG CEONGCHIEUMCHIEUCH$IEUC#SIOS$SANGCIEUC+SIOSrHIEUCHx-HIEUHyKHIEUKH",
   "tTUEUMCHIEUCHzIEUCySIOSzSANGCIEUC%SIOSrIEUCv-IEUNGqFILLERqHIEUHv-SIOSqIEUNGv-CHIEUCHxIEUC",
   "wHIEUHwKIYEOKwMIEUMwPANSIOSxHIEUPHxIEUPwRIEULwSIOSwTHIEUTHxIKEUTqKAPYEOUNMIEUMyPHIEUPHzIEUP",
   "yRIEULySSANGPIEUPrHIEUKHrIYEOKw-TIKEUTqMIEUMv-KIYEOKwPIEUPwSIOSwTIKEUTqNIEUNv-CIEUCwHIEUH",
   "wKIYEOKwPIEUPwSIOSwTIKEUTqPANSIOSrHIEUPHx-HIEUHyPIEUPrIEUPv-CHIEUCHxIEUCwHIEUHwKHIEUKHxIYEOK",
   "wNIEUNwPHIEUPHwSIOS!-CIEUC#KIYEOK#PIEUP#THIEUTH$IKEUTxSANGSIOSwTHIEUTHxIKEUTqRIEULv-CIEUC",
   "wHIEUHwKAPYEOUNPIEUPxHIEUKHxIYEOKwMIEUMwNIEUNwPIEUPwSIOSxSANGKIYEOK#PIEUP#TIKEUTwTIKEUTqSIOS",
   "u-CHIEUCHwIEUCvHIEUHvIEUNGvKHIEUKHwIYEOKvMIEUMvNIEUNvPHIEUPHwIEUP!-KIYEOKvRIEULvSSANGSIOS",
   "vTHIEUTHwIKEUTrSANGCIEUC!-HIEUHvHIEUHvIEUNGvKIYEOKvNIEUNvPIEUPvRIEULvSIOSz-PIEUPvTHIEUTHwIKEUT",
   "vYEORINHIEUHqTHIEUTHrIKEUTw-CIEUCxKIYEOKxMIEUMxPIEUPxRIEULxSIOSqYEORINHIEUHsSIEUNG",
   "hDOUBLE DOT TONE MARKhFILLERhJONGSEONG CHIEUCHsIEUCw-PIEUPxSSANGPIEUPrHIEUHw-MIEUMxNIEUNxPIEUP",
   "xRIEULrIEUNGw-KHIEUKHyIYEOKxSSANGKIYEOKrKAPYEOUNMIEUMzPHIEUPH!IEUPzRIEULsHIEUKHsIYEOKx-CHIEUCH",
   "yHIEUHyKHIEUKHyNIEUNyPIEUPyRIEULySIOS$-KIYEOKrMIEUMw-CHIEUCHyIEUCxHIEUHxKIYEOKxNIEUNxPANSIOS",
   "yIEUP$-SIOSxRIEULxSIOSySANGNIEUN$SIOSrNIEUNw-CHIEUCHyIEUCxHIEUHxKIYEOKxPANSIOSxRIEULxSIOS",
   "xTHIEUTHyIKEUTrPANSIOSy-KAPYEOUNPIEUPzPIEUPsHIEUPHy-PIEUPzSIOSzTHIEUTHsIEUPw-CHIEUCHyIEUC",
   "xHIEUHxMIEUMxPHIEUPHxRIEUL$-PHIEUPHxSIOS#-TIKEUTxTIKEUTrRIEULw-HIEUHxKAPYEOUNPIEUPyHIEUKH",
   "yIYEOK%-HIEUH&SIOSxMIEUM$-HIEUH%KIYEOK%SIOSxNIEUNxPANSIOSyHIEUPHyIEUP$-HIEUH%PHIEUPH%SIOS",
   "%TIKEUTxSIOSySANGKIYEOK$SIOSxTHIEUTHyIKEUT%-HIEUHxYEORINHIEUH.-HIEUHzSIEUNGrSIOSv-CHIEUCHxIEUC",
   "wHIEUHwKAPYEOUNPIEUPxIYEOKwMIEUMwPANSIOSxIEUPwRIEULwTHIEUTHxIKEUTsSANGCIEUCwIEUNGwKIYEOKwMIEUM",
   "wNIEUNwPIEUPwRIEUL#-KHIEUKHwSIOS!-KIYEOK#TIKEUTwTIKEUT$-PIEUPwYESIEUNGrTHIEUTHsIKEUTx-CHIEUCH",
   "zIEUCyKIYEOKyPIEUPyRIEULySIOS$-KIYEOKyTHIEUTHrYEORINHIEUHtSIEUNGz-HIEUH!KHIEUKH#IYEOK!MIEUM",
   "!PANSIOS!SIOS#SANGKIYEOKiUNGSEONG As-EUtOtUsEsRAEAw-AxEyOxIxUrEsOt-EUuOuUsUt-AuEvOvUuOuU",
   "rFILLERrIs-AuRAEAtEUtItOu-ItUtYAv-OvEuEvOuOuUrOs-EuOtOu-ItUtYAvEuEvOsErSSANGARAEArUs-AuEtEO-EU",
   "tI-ItUtYEvOrWAtEsEtOsIrYAt-OuUuYOtEsEtOu-OvUvYAsIt-UsOt-AvEuEOuIuOuYAwEvEOsUt-AvEuEvOuIuOuUuYE",
   "wOhLETTER ApEpRAEAtEoCHIEUCHpIEUCoEpOpUoHIEUHoIpEUNGoKAPYEOUNMIEUMwPHIEUPHxIEUPwSSANGPIEUP",
   "pHIEUKHpIYEOKu-SIOSoMIEUMt-PANSIOSvIEUPuSIOSoNIEUNt-CIEUCuHIEUHuPANSIOSuSIOSuTIKEUToOpE",
   "oPANSIOSpHIEUPHpIEUPt-CIEUCuKIYEOKuSIOSy-KIYEOKzTIKEUTuTHIEUTHvIKEUToRIEULt-HIEUHuKIYEOK!-SIOS",
   "uMIEUMuPANSIOSvHIEUPHvIEUPz-SIOSuSIOSuTHIEUTHvIKEUTuYEORINHIEUHoSIOSs-CIEUCtKIYEOKtNIEUNtPIEUP",
   "tTIKEUTpSANGCIEUCtHIEUHtIEUNGtKIYEOKtNIEUNtPIEUPtSIOStTIKEUToTHIEUTHpIKEUToUoWAqEpEqOpIoYAqEpE",
   "qOrRINHIEUHqSIEUNGw-PANSIOSxSIOSpIpOq-IrYAtEpUq-IrYEtOhSINGLE DOT TONE MARKeZHOU NUMERAL EIGHT",
   "rFIVEsOURrNINErONErSEVENsIXrTENsHIRTYtREEsWENTYtOdIFI ROHINGYA DIGIT EIGHTwFIVExOURwNINEwONE",
   "wSEVENxIXwTHREExWOwZEROqLETTER AxBAxCAxDAyDAxFAxGAxHAxJAxKAyHAyINNA WA%YAxLAxMAxNAyGAyYAxPAxRA",
   "yRAxSAyHAxTAyTAxVAxWAxYAxZAqMARK NA KHONNAvSAKINqSIGN HARBAHAYvTAHALAxNAxSSIqVOWEL AwEwIwOwU",
   "dUNOO LETTER ApBApDApGApHApIpKApLApMApNAqGApPApRApSApTApUpWApYAiSIGN PAMUDPODiVOWEL SIGN ItU",
   "cPPY PERSON RAISING ONE HANDcRD DISKcTCHING CHICKdRAN LETTER ALEPHpYNoBETHoDALETH-RESHoGIMEL",
   "oHEqTHoKAPHoLAMEDHoMEMoNUNoPEoQOPHoSADHEqMEKHpHINoTAWpETHoWAWoYODHoZAYNhNUMBER FIVEoONE",
   "r HUNDREDoTENpWENTYbEADPHONEeSTONEj GRAVEYARD SYMBOLdR-NO-EVIL MONKEYeT DECORATIONgHANDS",
   "gWITH ARROWlRIBBONlTIP ON THE LEFTdVY AMPERSAND ORNAMENThRROW SHAFT WIDTH ONE# HALF$THIRD",
   "yTWO THIRDShSTERISKgBALLOT XhLACK CURVED DOWNWARDS AND RIGHTWARDS ARROW",
   "tUPWARDS AND RIGHTWARDS ARROWmHEARTl-FEATHERED NORTH EAST ARROWwRIGHTWARDS ARROW",
   "wSOUTH EAST ARROWgCHECK MARKjVRON SNOWFLAKEhIRCLEm WITH CIRCLE INSIDE",
   "sSTROKE AND TWO DOTS ABOVEmD SALTIREhONCAVE-POINTED BLACK RIGHTWARDS ARROW",
   "gDASHED TRIANGLE-HEADED RIGHTWARDS ARROWhIVISION SIGNhOLLAR SIGN",
   "iUBLE COMMA QUOTATION MARK ORNAMENTnTURNED COMMA QUOTATION MARK ORNAMENT",
   "iWNWARDS ARROW WITH EQUILATERAL ARROWHEAD#LARGE EQUILATERAL ARROWHEADgEIGHT POINTED BLACK STAR",
   "uPINWHEEL STARuRECTILINEAR BLACK STARmSPOKED ASTERISKmTEARDROP-SPOKED PROPELLER ASTERISK",
   "hQUALS SIGNhXCLAMATION MARK ORNAMENTxSYMBOLgFIVE POINTED BLACK STARlSPOKED ASTERISK",
   "hOUR BALLOON-SPOKED ASTERISKgGREEK CROSSgHEART EXCLAMATION MARK ORNAMENThORIZONTAL FILL",
   "gINTERROBANG ORNAMENTgLARGE CIRCLEiTIN CROSShEFT-POINTING ANGLE BRACKET ORNAMENT",
   "!QUOTATION MARK ORNAMENTkWARDS ARROW WITH EQUILATERAL ARROWHEAD#LARGE EQUILATERAL ARROWHEAD",
   "hIGATURE OPEN ET ORNAMENThOW DOUBLE COMMA QUOTATION MARK ORNAMENT",
   "kSINGLE COMMA QUOTATION MARK ORNAMENTjER RIGHT-SHADOWED WHITE RIGHTWARDS ARROWgMINUS SIGN",
   "hULTIPLICATION XgNORTH EAST ARROWrPOINTING BUD!VINE LEAFmWEST POINTING BUD!VINE LEAF",
   "gOPEN CENTRE CROSShUTLINED BLACK STARhVAL WITH OVAL INSIDEgPLUS SIGN",
   "gRIGHT-POINTING ANGLE BRACKET ORNAMENT#QUOTATION MARK ORNAMENTlWARDS ARROW",
   "w WITH EQUILATERAL ARROWHEAD$LARGE EQUILATERAL ARROWHEADhOUND-TIPPED RIGHTWARDS ARROWgSALTIRE",
   "iNS-SERIF INTERROBANG ORNAMENThCRIPT LIGATURE ET ORNAMENThINGLE COMMA QUOTATION MARK ORNAMENT",
   "nTURNED COMMA QUOTATION MARK ORNAMENTiX POINTED BLACK STARkSPOKED ASTERISKhOUTH EAST ARROW",
   "rPOINTING BUD!VINE LEAFmWEST POINTING BUD!VINE LEAFhPARKLEgTEARDROP-SHANKED RIGHTWARDS ARROW",
   "qPOKED ASTERISKwPINWHEEL ASTERISKhRIANGLE-HEADED RIGHTWARDS ARROWhWELVE POINTED BLACK STAR",
   "vPINWHEEL STARgUPPER RIGHT-SHADOWED WHITE RIGHTWARDS ARROW",
   "iWARDS ARROW WITH EQUILATERAL ARROWHEADzLARGE EQUILATERAL ARROWHEADgVERTICAL BAR",
   "gWEDGE-TAILED RIGHTWARDS ARROWhHITE CIRCLEmDOWN-POINTING TRIANGLEmSQUARE",
   "hIDE-HEADED RIGHTWARDS ARROWcBREW ACCENT ATNAH HAFUKHoDARGApEHIoETNAHTAoGERESHu MUQDAMrSHAYIM",
   "oILUYoMAHAPAKHpERKHAu KEFULApUNAHoOLEoPASHTAqZERoQADMAqRNEY PARAoREVIAoSEGOLpHALSHELET",
   "oTELISHA GEDOLAwQETANAqVIRpIPEHAoYERAH BEN YOMOqTIVoZAQEF GADOLuQATANqRQApINORhLETTER ALEF",
   "s WITH MAPIQyPATAHyQAMATSqTERNATIVE AYIN!PLUS SIGNpYINoBETr WITH DAGESHxRAFEoDALET",
   "t WITH DAGESHoFINAL KAFx WITH DAGESHuMEMuNUNuPEw WITH DAGESHuTSADIoGIMELt WITH DAGESHoHE",
   "q WITH MAPIQqToKAFr WITH DAGESHxRAFEoLAMEDt WITH DAGESHoMEMr WITH DAGESHoNUNr WITH DAGESHoPE",
   "q WITH DAGESHwRAFEoQOFr WITH DAGESHoRESHs WITH DAGESHoSAMEKHu WITH DAGESHpHINs WITH DAGESH",
   "& AND SHIN DOT;IN DOTySHIN DOTzIN DOToTAVr WITH DAGESHpETr WITH DAGESHpSADIt WITH DAGESHoVAV",
   "r WITH DAGESHxHOLAMoWIDE ALEFtDALETtFINAL MEMtHEtKAFtLAMEDtRESHtTAVoYODr WITH DAGESHxHIRIQ",
   "oZAYINt WITH DAGESHiIGATURE ALEF LAMEDqYIDDISH DOUBLE VAV*YODyVAV YODyYOD YOD PATAH",
   "hMARK LOWER DOTmMASORA CIRCLEmUPPER DOThPOINT DAGESH OR MAPIQnHATAF PATAHtQAMATStSEGOLoIRIQ",
   "oOLAMs HASER FOR VAVnJUDEO-SPANISH VARIKAnMETEGnPATAHnQAMATSt QATANoUBUTSnRAFEnSEGOLoHEVA",
   "pIN DOToIN DOTnTSEREiUNCTUATION GERESHwSHAYIMtMAQAFtNUN HAFUKHAtPASEQtSOF PASUQhYOD TRIANGLE",
   "cDGEHOGcLICOPTERdLSCHREIBER PAUSE SYMBOLdM SYMBOLeET WITH WHITE CROSScNTAIGANA LETTER A-1u2u3",
   "uWOsE-1u2u3u4u5u6sHA-1w0w1v2v3v4v5v6v7v8v9tE-1v2v3v4v5v6v7tI-1v2v3v4v5v6v7tO-1v2v3v4v5v6v7v8",
   "tU-1v2v3sI-1u2u3u4sKA-1w0w1v2v3v4v5v6v7v8v9vKEtE-1v2v3v4v5v6tI-1v2v3v4v5v6v7v8tO-1v2v3vKItU-1",
   "v2v3v4v5v6v7sMA-1v2v3v4v5v6v7tE-1v2vMAtI-1v2v3v4v5v6v7tO-1v2v3v4v5v6tU-1v2v3v4sN-MU-MO-1!2tA-1",
   "v2v3v4v5v6v7v8v9tE-1v2v3v4v5v6vKOtI-1v2v3v4v5v6v7vTEtO-1v2v3v4v5tU-1v2v3sO-1u2u3sRA-1v2v3v4",
   "tE-1v2v3v4tI-1v2v3v4v5v6v7tO-1v2v3v4v5v6tU-1v2v3v4v5v6sSA-1v2v3v4v5v6v7v8tE-1v2v3v4v5tI-1v2v3",
   "v4v5v6tO-1v2v3v4v5v6v7tU-1v2v3v4v5v6v7v8sTA-1v2v3v4tE-1v2v3v4v5v6v7v8v9tI-1v2v3v4v5v6v7tO-1v2",
   "v3v4v5v6vRAtU-1v2v3v4vTOsU-1u2u3u4u5sWA-1v2v3v4v5tE-1v2v3v4tI-1v2v3v4v5tO-1v2v3v4v5v6v7sYA-1v2",
   "v3v4v5vYOtO-1v2v3v4v5v6tU-1v2v3v4cRBdMITIAN CONJUGATE MATRIXcXAGRAM FOR ABUNDANCE",
   "oFTER COMPLETIONoPPROACHnBEFORE COMPLETIONoITING THROUGHoREAKTHROUGHnCOMING TO MEETpNFLICT",
   "qTEMPLATIONnDARKENING OF THE LIGHToECREASEpLIVERANCEpVELOPMENToIFFICULTY AT THE BEGINNING",
   "pSPERSIONoURATIONnENTHUSIASMnFELLOWSHIPoOLLOWINGnGATHERING TOGETHERoRACEpEAT POSSESSIONvWER",
   "uREPONDERANCEtTAMINGnHOLDING TOGETHERnINCREASEpFLUENCEpNER TRUTHqOCENCEnLIMITATIONnMODESTY",
   "pUTH CORNERSnOBSTRUCTIONoPPOSITIONqRESSIONnPEACEoROGRESSoUSHING UPWARDnRETREATqURNpVOLUTION",
   "nSMALL PREPONDERANCEtTAMINGoPLITTING APARToTANDSTILLnTHE ABYSMAL WATERsRMYtOUSING THUNDER",
   "rCAULDRONsLINGING FIREsREATIVE HEAVENrFAMILYrGENTLE WINDrJOYOUS LAKErKEEPING STILL MOUNTAIN",
   "rMARRYING MAIDENrRECEPTIVE EARTHrWANDERERsELLoREADINGnWAITINGoORK ON THE DECAYED",
   "nYOUTHFUL FOLLYbIBISCUScGH BRIGHTNESS SYMBOLfOCTET PRESETfVOLTAGE SIGNe-HEELED SHOE",
   "fSPEED TRAINq WITH BULLET NOSEcKING BOOTcNDU TEMPLEcPPOPOTAMUScRAGANA DIGRAPH YORI",
   "jITERATION MARKjLETTER ArRCHAIC WUyYEqBArErIrOrUqDArErIrOrUqEqGArErIrOrUqHArErIrOrUqIqKArErIrO",
   "rUqMArErIrOrUqNrArErIrOrUqOqPArErIrOrUqRArErIrOrUqSArErIrMALL AwEwIwKAxEwOwTUwUwWAxExIxOwYAxO",
   "xUrOrUqTArErIrOrUqUqVUqWArErIrOqYArOrUqZArErIrOrUjVOICED ITERATION MARKcSTORIC SITEbOCHOcLE",
   "dLOW QUILT SQUARE ORNAMENT$ IN BLACK SQUAREcMOTHETICcNEY POTfBEEcOKcPcRIZONTAL BAR",
   "mLACK HEXAGONrOCTAGONlELLIPSISlLINE EXTENSIONlMALE WITH STROKE SIGNlONE EIGHTH BLOCK-1358$2$3",
   "$4$5$6$7lSCAN LINE-1v3v7v9lTAB KEYoULATIONv SETwWITH JUSTIFICATIONmRAFFIC LIGHTdSEf FACE",
   "gRACINGcSPITALcT BEVERAGEeDOGePEPPEReSPRINGSdELcURGLASSj WITH FLOWING SANDdSEf BUILDINGoS",
   "gWITH GARDENbRYVNIA SIGNbTcJcSbUGGING FACEcNDRED POINTS SYMBOLcSHED FACEcTbYGIEAcPHENg BULLET",
   "hWITH DIAERESISg-MINUSgATION POINTdODIASTOLEcSTERESIS SYMBOLaI LOVE YOU HAND SIGNbCE CREAMfUBE",
   "eHOCKEY STICK AND PUCKeSKATEbDENTICAL TOm AND SLANTED PARALLELkWITH DOT ABOVEgFICATION CARD",
   "dOGRAPHIC ANNOTATION BOTTOM MARKxEARTH MARKxFIRST MARKyOUR MARK#TH MARKxHEAVEN MARK",
   "xLINKING MARKxMAN MARKyIDDLE MARKxONE MARKxREVERSE MARKxSECOND MARKxTHIRD MARKzREE MARK",
   "yOP MARKyWO MARKmCLOSING MARKnOMMAmDEPARTING TONE MARKoSCRIPTION CHARACTER ABOVE TO BELOW",
   "_MIDDLE AND BELOW.FULL SURROUND.LEFT TO MIDDLE AND RIGHT^RIGHT.OVERLAID.SURROUND FROM ABOVE",
   ") BELOW) LEFT) LOWER LEFT) UPPER LEFT) UPPER RIGHTmENTERING TONE MARKmFULL STOP",
   "mHALF FILL SPACEmITERATION MARKmLEVEL TONE MARKmNUMBER ZEROmRISING TONE MARKmSPACE",
   "mTALLY MARK FIVEyOURxONExTHREEyWOnELEGRAPH LINE FEED SEPARATOR SYMBOLwSYMBOL FOR APRIL.UGUST",
   ",DAY EIGHT^EEN=LEVEN<FIFTEEN>VE=OUR@TEEN<NINE@TEEN<ONE<SEVEN^TEEN=IX?TEEN<TEN=HIRTEEN^Y_-ONE",
   ">REE=WELVE?NTY_-EIGHT|FIVE~OUR|NINE|ONE|SEVEN~IX|THREE~WO>O.ECEMBER,FEBRUARY,HOUR EIGHT_EEN",
   ">LEVEN=FIFTEEN?VE>OUR^TEEN=NINE^TEEN=ONE=SEVEN_TEEN>IX@TEEN=TEN>HIRTEEN?REE>WELVE@NTY|-FOUR",
   "~ONE~THREE(WO?O=ZERO,JANUARY.ULY:NE,MARCH:Y,NOVEMBER,OCTOBER,SEPTEMBERmVARIATION INDICATOR",
   "bMAGE OFi OR APPROXIMATELY EQUAL TOcPdERIAL ARAMAIC LETTER ALEPHzYINyBETHyDALETHyGIMELyHE!TH",
   "yKAPHyLAMEDHyMEMyNUNyPEyQOPHyRESHySADHE!MEKHzHINyTAWzETHyWAWyYODHyZAYINrNUMBER ONE# HUNDRED",
   "$THOUSANDyTEN# THOUSANDzHREEzWENTY!OrSECTION SIGNbNBOX TRAYcCOMING ENVELOPEfPLETE INFINITY",
   "dREASE FONT SIZE SYMBOLiS ASfMENTcDdEXf POINTING AT THE VIEWERdIAN RUPEE SIGN",
   "eC SIYAQ ALTERNATE LAKH MARKmFRACTION ONE HALFzQUARTERvTHREE QUARTERSmLAKH MARK",
   "mNUMBER ALTERNATE ONE%TEN THOUSAND&WOtEIGHTy HUNDREDzTHOUSANDyYz THOUSANDtFIFTYy THOUSANDvVE",
   "x HUNDREDyTHOUSANDuORTYy THOUSANDvURx HUNDREDyTHOUSANDtKARORyANtLAKHxANtNINEx HUNDREDyTHOUSAND",
   "xTYz THOUSANDtONEw HUNDREDxTHOUSANDtPREFIXED EIGHT$FIVE%OUR$NINE$ONE$SEVEN%IX$THREE%WOtSEVEN",
   "y HUNDREDzTHOUSANDyTY! THOUSANDuIXw HUNDREDxTHOUSANDwTYy THOUSANDtTENw THOUSANDuHIRTY",
   "z THOUSANDvREEy HUNDREDzTHOUSANDuWENTYz THOUSANDvOw HUNDREDxTHOUSANDmPLACEHOLDERmRUPEE MARK",
   "cFINITYi NEGATED WITH VERTICAL BARdORMATION DESK PERSONmSEPARATOR FOURwONEwTHREExWOnOURCE",
   "cHIBIT ARABIC FORM SHAPINGiSYMMETRIC SWAPPINGcPUT SYMBOL FOR LATIN CAPITAL LETTERSxLETTERS",
   "xSMALL LETTERSrNUMBERSrSYMBOLScSCRIPTIONAL PAHLAVI LETTER ALEPH%BETH%DALETH%GIMEL%HE*TH%KAPH",
   "%LAMEDH%MEM-QOPH%NUN%PE%SADHE*MEKH&HIN%TAW&ETH%WAW-AYIN-RESH%YODH%ZAYINwNUMBER FOUR%ONE",
   "+ HUNDRED,THOUSAND%TEN&HREE&WENTY*OqRTHIAN LETTER ALEPH*YIN&BETH&DALETH&GIMEL&HE+TH&KAPH",
   "&LAMEDH&MEM&NUN&PE&QOPH&RESH&SADHE+MEKH*HIN&TAW*ETH&WAW&YODH&ZAYINxNUMBER FOUR&ONE, HUNDRED",
   ".THOUSAND&TEN*HREE*WENTY+OdERTION SYMBOLcTEGRALi AROUND A POINT OPERATORkVERAGE WITH SLASH",
   "jEXTENSIONjWITH DOUBLE STROKEoINTERSECTIONoLEFTWARDS ARROW WITH HOOKoOVERBARoTIMES SIGN",
   "oUNDERBARqIONeRCALATEfIOR PRODUCTfLINEAR ANNOTATION ANCHORxSEPARATORxTERMINATOR",
   "gOCKED FEMALE AND MALE SIGNfROBANGfSECTIONm ABOVE BAR ABOVE UNIONtUNION",
   "nBESIDE AND JOINED WITH INTERSECTIONnWITH DOTsLOGICAL ANDsOVERBARcVERSE BULLETiCHECK MARK",
   "nER BOARD FILLiDOWNWARDS ARROW WITH TIP LEFTWARDSiMEDIUM SHADEiWHITE CIRCLE",
   "fTED EXCLAMATION MARKjINTERROBANGjLAZY SkOW KAVYKAt WITH KAVYKA ABOVEjOHM SIGNjPENTAGRAM",
   "jQUESTION MARKjUNDERTIEdISIBLE PLUSkSEPARATORkTIMESbZAKAYA LANTERNaJACK-O-LANTERN",
   "cPANESE BANK SYMBOLjCASTLEjDOLLSjGOBLINjINDUSTRIAL STANDARD SYMBOLjOGREjPOST OFFICE",
   "jSYMBOL FOR BEGINNERcRcVANESE CONSONANT SIGN CAKRAyKERETyPENGKALjDIGIT EIGHTpFIVEqOURpNINEpONE",
   "pSEVENqIXpTHREEqWOpZEROjLEFT RERENGGANlTTER ArIqBAs MURDAqCAs MURDAqDAs MAHAPRANArDA",
   "t MAHAPRANAqEqGAs MURDAqHAqIr KAWIrIqJAs MAHAPRANAqKAs MURDAtSASAKqLAqMAqNAs MURDArGAt LELET",
   "z RASWADIrYAt MURDAqOqPAs CEREKtMURDAqRAs AGUNGqSAs MAHAPRANAuURDAqTAs MURDArTAt MAHAPRANAqU",
   "qWAqYAjPADA ADEGs ADEGpNDAPoISEN-ISENoLINGSApUHURqNGSIoMADYAoPANGKATpISELEHoTIRTA TUMETES",
   "oWINDUlNGKONnRANGKEPjRIGHT RERENGGANjSIGN CECAKt TELUoLAYARoPANYANGGAoWIGNYAN",
   "jTURNED PADA PISELEHjVOWEL SIGN DIRGA MUREuPEPETuSUKUy MENDUTuTALINGwRUNGvOLONGuWULUy MELIK",
   "bEANSbIGSAW PUZZLE PIECEbOINcYSTICKbUGGLINGcNOcPITERaKAABAcITHI ABBREVIATION SIGNhDANDA",
   "iOUBLE DANDAoSECTION MARKhENUMERATION SIGNhLETTER ApApIpUoBApHAoCApHAoDApDAqDHAqHApHAoEoGApHA",
   "oHAoIpIoJApHAoKApHAoLAoMAoNApGApNApYAoOoPApHAoRApHAoSApHApSAoTApHApTAqHAoUpUoVAoYAhNUMBER SIGN",
   "s ABOVEhSECTION MARKiIGN ANUSVARAmCANDRABINDUmNUKTAmVIRAMAoSARGAhVOWEL SIGN AAtItUsEsItIsOsUtU",
   "sVOCALIC RcNGAROOeXI RADICAL AGAINqNDqRRIVEsOWqXEpBADGERrMBOOqEANqIGrRDrTTERqLACKrOODrUEqOAT",
   "rDYrLT OF CLOTHrNErWqRANCHrISTLErUSHpCARTrULDRONrVEqHILDqITYqLANsWrIFFrOTHESqOLORrMPARErRPSE",
   "rVERrWpDEATHrERqIPPERrSHsTINGUISHrVINATIONqO NOTrGrORrTsTED CLIFFwTENTrUBLE XrWN BOXqRAGONrUM",
   "rYpEARsTHrTqIGHTqMBROIDERYqNCLOSURErTERqVENtINGqYEpFACErNGrTHERqEATHERqIELDrGHTrRErSHqLUTErY",
   "qOOTqRAGRANTrOGqURpGATEqHOSTqOr SLOWLYrLDqRAINsSSpHAIRrLBERDsF TREE TRUNKrNDqEADsRTrMP",
   "qIDING ENCLOSUREqOOKrRNsSEpICEqNCHrSECTpJADErRpKNIFEpLACKrMEqEAFsTHERrEKrGSqIDrFErNEqONG",
   "t STRIDEpMANqEATrLONqILLETrNISTERqOONrRNINGsTARrUNDtTAINsTHpNETqOSErTpOLDqNEsSELFqPEN BOXrPOSE",
   "pPIGqLOWqOWERqRIVATErOFOUNDpRAINrPrTqEDqICErGHT OPEN BOXrVERqOOFqUNpSACRIFICIAL WINErLTrY",
   "qCHOLARrRIPTqEALrCONDrErLFqHEEPsLLrOOTsRT TAILED BIRDwHREADqICKNESSrLKqKINqLASHsVErICEqMALL",
   "qNOUTqOUNDqPEARsECHrIRITrOONrROUTqQUAREqTANDrEAMsPrONEsPtPINGqUNqWEETpTABLErLLrNNED LEATHERqEN",
   "qIGERrLEqONGUErOTHqRACKrEErIPODqURBANsTLEqWOs HANDSpUSEpVALLEYqILLAGEpWALKt ENCLOSURErTER",
   "qEAPONrSTqHEATrITEqINDsEqOMANrRKqRAPrONGpYELLOWdNADA AI LENGTH MARKiDIGIT EIGHToFIVEpOURoNINE",
   "oONEoSEVENpIXoTHREEpWOoZEROiLENGTH MARKkTTER AqAqIqUpBAqHApCAqHApDAqDArHAqHApEqEpFApGAqHApHApI",
   "qIpJAqHApKAqHApLAqLArLApMApNArKAARA POLLUqGAqNAqYApOqOpPAqHApRAqRApSAqHAqSApTAqHAqTArHApUqUpVA",
   "qOCALIC LyLxRyRpYAiSIGN ANUSVARAoVAGRAHAnCANDRABINDUnJIHVAMULIYAnNUKTAnSIDDHAM",
   "oPACING CANDRABINDUnUPADHMANIYAnVIRAMApSARGAiVOWEL SIGN AAuIuUtEuEtIuItOuOtUuUtVOCALIC L$L#R$R",
   "cTAKANA DIGRAPH KOTOjITERATION MARKjLETTER ArRCHAIC EyWUyYEzIqBArErIrOrUqDArErIrOrUqEqGArErIrO",
   "rUqHArErIrOrUqIqKArErIrOrUqMArErIsNNAN NASALIZED TONE-1=2=3=4=5=7=8xTONE-2$3$4$5$7$8rOrUqNrArE",
   "rIrOrUqOqPArErIrOrUqRArErIrOrUqSArErIrMALL AwEwHAxExIxOxUwIwKAxExUwMUwNxUwOwRAxExIxOxUwSIxUwTO",
   "xUwUwWAxExIxOwYAxOxUrOrUqTArErIrOrUqUqVArErIrOrUqWArErIrOqYArOrUqZArErIrOrUjMIDDLE DOT",
   "jVOICED ITERATION MARKi-HIRAGANA DOUBLE HYPHENsPROLONGED SOUND MARKsSEMI-VOICED SOUND MARK",
   "sVOICED SOUND MARKcYAH LI DIGIT EIGHTpFIVEqOURpNINEpONEpSEVENqIXpTHREEqWOpZEROjLETTER AqBAqCA",
   "qDAqGAqHArTAqIqKArHAqLAqMAqNArGArYAqOErOqPArHAqRAqSArHAqTArHAqVAqWAqYAqZAjSIGN CWIoSHYA",
   "jTONE CALYAt PLOPHUoPLOPHUjVOWEL EqEpOpUqEbELVIN SIGNcYdBOARDi AND MOUSEdCAP TEN",
   "bHAROSHTHI DIGIT FOURrONErTHREEsWOlFRACTION ONE HALFlLETTER AsBAtHAsCAtHAsDAtDAuHAtHAsGAtHAsHA",
   "sJAsKAtHAtKAsLAsMAsNAtNAtYAsPAtHAsRAsSAtHAtSAsTAtHAtTAuHAuTAvHAsVAtHAsYAsZAlNUMBER ONE HUNDRED",
   "wTHOUSANDsTENtWENTYlPUNCTUATION CIRCLEyRESCENT BARxDANDAyOTzUBLE DANDAxLINESyOTUSxMANGALAM",
   "xSMALL CIRCLElSIGN ANUSVARAqBAR ABOVEqCAUDAqDOT BELOWsUBLE RING BELOWqVISARGAlVIRAMA",
   "mOWEL LENGTH MARKrSIGN EwIwOwUwVOCALIC RcITAN SMALL SCRIPT CHARACTER-18B00.1.2.3.4.5.6.7.8.9.A",
   ".B.C.D.E.F,10.1.2.3.4.5.6.7.8.9.A.B.C.D.E.F,20.1.2.3.4.5.6.7.8.9.A.B.C.D.E.F,30.1.2.3.4.5.6.7",
   ".8.9.A.B.C.D.E.F,40.1.2.3.4.5.6.7.8.9.A.B.C.D.E.F,50.1.2.3.4.5.6.7.8.9.A.B.C.D.E.F,60.1.2.3.4",
   ".5.6.7.8.9.A.B.C.D.E.F,70.1.2.3.4.5.6.7.8.9.A.B.C.D.E.F,80.1.2.3.4.5.6.7.8.9.A.B.C.D.E.F,90.1",
   ".2.3.4.5.6.7.8.9.A.B.C.D.E.F,A0.1.2.3.4.5.6.7.8.9.A.B.C.D.E.F,B0.1.2.3.4.5.6.7.8.9.A.B.C.D.E.F",
   ",C0.1.2.3.4.5.6.7.8.9.A.B.C.D.E.F,D0.1.2.3.4.5.6.7.8.9.A.B.C.D.E.F,E0.1.2.3.4.5.6.7.8.9.A.B.C",
   ".D.E.F,F0.1.2.3.4.5.6.7.8.9.A.B.C.D.E.F+C00.1.2.3.4.5.6.7.8.9.A.B.C.D.E.F,10.1.2.3.4.5.6.7.8.9",
   ".A.B.C.D.E.F,20.1.2.3.4.5.6.7.8.9.A.B.C.D.E.F,30.1.2.3.4.5.6.7.8.9.A.B.C.D.E.F,40.1.2.3.4.5.6",
   ".7.8.9.A.B.C.D.E.F,50.1.2.3.4.5.6.7.8.9.A.B.C.D.E.F,60.1.2.3.4.5.6.7.8.9.A.B.C.D.E.F,70.1.2.3",
   ".4.5.6.7.8.9.A.B.C.D.E.F,80.1.2.3.4.5.6.7.8.9.A.B.C.D.E.F,90.1.2.3.4.5.6.7.8.9.A.B.C.D.E.F,A0",
   ".1.2.3.4.5.6.7.8.9.A.B.C.D.E.F,B0.1.2.3.4.5.6.7.8.9.A.B.C.D.E.F,C0.1.2.3.4.5.6.7.8.9.A.B.C.D.E",
   ".F,D0.1.2.3.4.5uFILLERcMER CURRENCY SYMBOL RIELgDIGIT EIGHTmFIVEnOURmNINEmONEmSEVENnIXmTHREE",
   "nWOmZEROgINDEPENDENT VOWEL LY!YyQAA!I!Q!UzEzI!IzOO TYPE ONE,TWOzU!K!U#VyRY!YgLETTER BAnCAoHApO",
   "oOnDAoOnHAnKAoHApOoOnLAoOnMOnNGOoNOoOoYOnPHApOoOnQAnROnSAoHAoSOnTAoHApOoOoTHAqOnVOnYO",
   "gSIGN AHSDAmTTHACANmVAKRAHASANYAlBANTOCnRIYOOSANnTHAMASATmEYYALlCAMNUC PII KUUHmOENGlKAKABAT",
   "mHANmOOMUUTlLEK TOOlMUUSIKATOANlNIKAHITlPHNAEK MUANlREAHMUKmOBATlSAMYOK SANNYAlTOANDAKHIAT",
   "mRIISAPlVIRIAMlYUUKALEAPINTUhYMBOL BEI KOETrROCoUON KOETsROCnDAP KOETrROCq-BEI KOETvROC",
   "sUON KOETwROCrMUOY KOETwROCrPII KOETvROCsRAM KOETwROCnLEK ATTAK BEIyUONxMUOYxPIIyRAM#-BEI%UON",
   "$MUOY$PIIxSONnMUOY KOETsROCnPATHAMASAToII KOETrROCoRAM KOETsROCr-BEI KOETwROCtUON KOETxROC",
   "sMUOY KOETxROCsPII KOETwROCnTUTEYASATgVOWEL INHERENT AAwQmSIGN AAsEsIsUrErIsEsIrOEsOrUsAsUrYsA",
   "sYcOJKI ABBREVIATION SIGNhDANDAiOUBLE DANDAoSECTION MARKhLETTER ApApIpUoBApBApHAoCApHAoDApDA",
   "qDAqHApHAoEoGApGApHAoHAoIoJApJAoKApHAoLApLAoMAoNApGApNApYAoOoPApHAoRAoSAoTApHApTAqHAoUoVAoYA",
   "hSECTION MARKiIGN ANUSVARAmNUKTAmSHADDAnUKUNmVIRAMAhVOWEL SIGN AAtItUsEsItIsOsUhWORD SEPARATOR",
   "cUDAWADI DIGIT EIGHTqFIVErOURqNINEqONEqSEVENrIXqTHREErWOqZEROkLETTER AsAsIsUrBAsBAsHArCAsHArDA",
   "sDAtDAtHAsHArErGAsGAsHArHArIsIrJAsHAsJArKAsHArLArMArNAsGAsNAsYArOrPAsHArRAsRArSAsHArTAsHAsTA",
   "tHArUsUrVArYAkSIGN ANUSVARApNUKTApVIRAMAkVOWEL SIGN AAwIwUvEvIwIvOvUwUbIMONOcP SIGNcSSe MARK",
   "eING CAT FACE WITH CLOSED EYESiFACEm WITH CLOSED EYESsSMILING EYEScTEcWIFRUITbNEELING PERSON",
   "cOTbOALAcREAN STANDARD SYMBOLbRONOSaL B BAR SYMBOLbAB COATdELcCROSSE STICK AND BALLcDDER",
   "dY BEETLEcNGUAGE TAGcO CANCELLATION MARKeDIGIT EIGHTkFIVElOURkNINEkONEkSEVENlIXkTHREElWOkZERO",
   "eELLIPSISeHO MOhNOeKO LAeLETTER BOlCOlDOlFO FAYpONoSUNGoTAMlHO SUNGoTAMlKHMU GOqNYOnO SUNGpTAM",
   "mOlLOn LINGpOOTlMOlNGOmOmYOlOlPALI BHAqCHAqDDAsHArHAqGHAqJHAqLLAqNNArYAqTTAsHAmHO SUNGpTAMmO",
   "lROlSANSKRIT SHAvSAmO SUNGoTAMlTHO SUNGpTAMmOlWOlYOeNIGGAHITAeSEMIVOWEL SIGN LOtNYO",
   "fIGN PALI VIRAMAeTONE MAI CATAWAnEKnTHOoIeVOWEL SIGN AqAqIqMqYpEqIpIqIpMAI KANuONpOpUqUpYqY",
   "cRGE BLUE CIRCLElDIAMONDlSQUAREhROWN CIRCLEmSQUAREgCIRCLEgDOWN TACKgGREEN CIRCLEmSQUARE",
   "gLEFT TRIANGLE OPERATORgONE DOT OVER TWO DOTS PUNCTUATIONkRING OVER TWO RINGS PUNCTUATION",
   "hRANGE CIRCLEnDIAMONDnSQUAREgPURPLE CIRCLEnSQUAREgRED CIRCLEkSQUARE",
   "gTRIPLE VERTICAL BAR OPERATORhWO DOTS OVER ONE DOT PUNCTUATIONkRINGS OVER ONE RING PUNCTUATION",
   "gUP TACKgYELLOW CIRCLEnSQUAREfR THANl OR EQUAL TOdI SIGNcST QUARTER MOONr SYMBOLsWITH FACE",
   "cTIN CAPITAL LETTER Aw WITH ACUTE$BREVE, AND ACUTE=DOT BELOW=GRAVE=HOOK ABOVE=TILDE$CARON",
   "%IRCUMFLEX= AND ACUTE_DOT BELOW_GRAVE_HOOK ABOVE_TILDE$DIAERESIS< AND MACRON%OT ABOVE",
   "< AND MACRON+BELOW&UBLE GRAVE$GRAVE$HOOK ABOVE$INVERTED BREVE$MACRON$OGONEK$RING ABOVE",
   "= AND ACUTE,BELOW$STROKE$TILDEwAwEx WITH ACUTE%MACRONwFRICAN DwLPHAwNGLICANA WwOwUwV",
   "x WITH HORIZONTAL BARwYvBw WITH DOT ABOVE+BELOW$FLOURISH$HOOK$LINE BELOW$STROKE$TOPBARwETA",
   "wROKEN LvCw WITH ACUTE$BAR$CARON%EDILLA: AND ACUTE%IRCUMFLEX$DOT ABOVE$HOOK$PALATAL HOOK",
   "$STROKEwHIwLOSED INSULAR GwONwUATRILLO& WITH COMMAvDw WITH CARON%EDILLA%IRCUMFLEX BELOW",
   "$DOT ABOVE+BELOW$HOOK$LINE BELOW$SHORT STROKE OVERLAY%MALL LETTER Z^ WITH CARON%TROKE$TOPBARwZ",
   "x WITH CARONvEw WITH ACUTE$BREVE$CARON%EDILLA: AND BREVE%IRCUMFLEX= AND ACUTE_DOT BELOW_GRAVE",
   "_HOOK ABOVE_TILDE>BELOW$DIAERESIS%OT ABOVE+BELOW&UBLE GRAVE$GRAVE$HOOK ABOVE$INVERTED BREVE",
   "$MACRON. AND ACUTE>GRAVE$OGONEK$STROKE$TILDE, BELOWwGYPTOLOGICAL AIN;LEFwNGwSHwTxHwZH",
   "y REVERSEDzWITH CARONvFw WITH DOT ABOVE$HOOK$STROKEvGw WITH ACUTE$BREVE$CARON%EDILLA%IRCUMFLEX",
   "$DOT ABOVE$HOOK$MACRON$OBLIQUE STROKE$STROKEwAMMAwHAwLOTTAL A%I%STOP%UvHw WITH BREVE BELOW",
   "$CARON%EDILLA%IRCUMFLEX$DESCENDER%IAERESIS%OT ABOVE+BELOW$HOOK$STROKEwALF HwENGwWAIRvI",
   "w WITH ACUTE$BREVE$CARON%IRCUMFLEX$DIAERESIS< AND ACUTE%OT ABOVE+BELOW&UBLE GRAVE$GRAVE",
   "$HOOK ABOVE$INVERTED BREVE$MACRON$OGONEK$STROKE$TILDE, BELOWwNSULAR D%F%G%R%S%TwOTAwSvJ",
   "w WITH CIRCUMFLEX%ROSSED-TAIL$STROKEvKw WITH ACUTE$CARON%EDILLA$DESCENDER%IAGONAL STROKE",
   "%OT BELOW$HOOK$LINE BELOW$OBLIQUE STROKE$STROKE. AND DIAGONAL STROKEvLw WITH ACUTE$BAR%ELT",
   "$CARON%EDILLA%IRCUMFLEX BELOW$DOT BELOW< AND MACRON&UBLE BAR$HIGH STROKE$LINE BELOW$MIDDLE DOT",
   ":TILDE$SMALL LETTER J%TROKEwJvMw WITH ACUTE$DOT ABOVE+BELOW$HOOKwIDDLE SCOTS S#-WELSH LL.VvN",
   "w WITH ACUTE$CARON%EDILLA%IRCUMFLEX BELOW$DESCENDER%OT ABOVE+BELOW$GRAVE$LEFT HOOK%INE BELOW",
   "%ONG RIGHT LEG$OBLIQUE STROKE$SMALL LETTER J$TILDEwJvOw WITH ACUTE$BREVE$CARON%IRCUMFLEX",
   "= AND ACUTE_DOT BELOW_GRAVE_HOOK ABOVE_TILDE$DIAERESIS< AND MACRON%OT ABOVE< AND MACRON+BELOW",
   "&UBLE ACUTE:GRAVE$GRAVE$HOOK ABOVE&RN+ AND ACUTE<DOT BELOW<GRAVE<HOOK ABOVE<TILDE",
   "$INVERTED BREVE$LONG STROKE OVERLAY&OP$MACRON. AND ACUTE>GRAVE%IDDLE TILDE$OGONEK. AND MACRON",
   "$STROKE. AND ACUTE$TILDE, AND ACUTE=DIAERESIS=MACRONwIwLD POLISH OwMEGAwOwPEN E!OwUvP",
   "w WITH ACUTE$DOT ABOVE$FLOURISH$HOOK$SQUIRREL TAIL%TROKE. THROUGH DESCENDERvQ",
   "w WITH DIAGONAL STROKE$STROKE THROUGH DESCENDERvRw ROTUNDAxWITH ACUTE$CARON%EDILLA$DOT ABOVE",
   "+BELOW< AND MACRON&UBLE GRAVE$INVERTED BREVE$LINE BELOW$OBLIQUE STROKE$STROKE$TAIL",
   "wEVERSED C WITH DOT&E&HALF H&OPEN EwUM ROTUNDAvSw WITH ACUTE, AND DOT ABOVE$CARON",
   ", AND DOT ABOVE%EDILLA%IRCUMFLEX%OMMA BELOW$DOT ABOVE+BELOW< AND DOT ABOVE$HOOK$OBLIQUE STROKE",
   "$SHORT STROKE OVERLAY%WASH TAILwALTILLOwCHWAxRIPT GwHARP SwIGMOID SwMALL CAPITAL I",
   "#Q WITH HOOK TAILvTw WITH CARON%EDILLA%IRCUMFLEX BELOW%OMMA BELOW$DIAGONAL STROKE%OT ABOVE",
   "+BELOW$HOOK$LINE BELOW$RETROFLEX HOOK$STROKEwHORN! WITH STROKE= THROUGH DESCENDERwONE FIVE!SIX",
   "!TWOwRESILLOwURNED A%LPHA$H$INSULAR G$K$L$M$T$VwZvUw BARxWITH ACUTE$BREVE$CARON%IRCUMFLEX",
   "= BELOW$DIAERESIS< AND ACUTE^CARON^GRAVE^MACRON=BELOW%OT BELOW&UBLE ACUTE:GRAVE$GRAVE",
   "$HOOK ABOVE&RN+ AND ACUTE<DOT BELOW<GRAVE<HOOK ABOVE<TILDE$INVERTED BREVE$MACRON",
   ". AND DIAERESIS$OGONEK$RING ABOVE$STROKE$TILDE, AND ACUTE.BELOWwPSILONvVw WITH DIAGONAL STROKE",
   "%OT BELOW$HOOK$TILDEwENDwISIGOTHIC ZwOLAPUK AE%OE%UEwYvWw WITH ACUTE$CIRCUMFLEX$DIAERESIS",
   "%OT ABOVE+BELOW$GRAVE$HOOKwYNNvXw WITH DIAERESIS%OT ABOVEvYw WITH ACUTE$CIRCUMFLEX$DIAERESIS",
   "%OT ABOVE+BELOW$GRAVE$HOOK+ ABOVE$LOOP$MACRON$STROKE$TILDEwOGHvZw WITH ACUTE$CARON%IRCUMFLEX",
   "$DESCENDER%OT ABOVE+BELOW$HOOK$LINE BELOW$PALATAL HOOK$STROKE%WASH TAILpIGATURE IJxOEhROSS",
   "gEPIGRAPHIC LETTER ARCHAIC MyI LONGAzNVERTED MyREVERSED F,PySIDEWAYS IgLETTER AIN",
   "oLVEOLAR CLICKnBIDENTAL PERCUSSIVEpLABIAL CLICKwPERCUSSIVEnDENTAL CLICKnGLOTTAL STOP",
   "z WITH STROKEnINVERTED GLOTTAL STOP. WITH CURL?STROKEnLATERAL CLICK",
   "nPHARYNGEAL VOICED FRICATIVEnRETROFLEX CLICK$ WITH RETROFLEX HOOKpVERSED ESH LOOP",
   "wGLOTTAL STOP WITH STROKEnSINOLOGICAL DOToMALL CAPITAL A$E#B$ARRED B#C#D#E$TH$ZH#F#G",
   "$ WITH HOOK#H#I$NVERTED R#J#K#L$ WITH BELT.STROKE#M#N#O$E$PEN O$U#P#Q#R$ WITH RIGHT LEG",
   "$EVERSED N;R$UM#S#T$URNED E.G.K.M.R#U#V#W#Y#ZoTRETCHED Cy WITH CURLnTWO WITH STROKE",
   "nVOICED LARYNGEAL SPIRANTnWYNNnYRgSMALL CAPITAL LETTER I WITH STROKE#U WITH STROKEmLETTER A",
   "u REVERSED-SCHWAvWITH ACUTE!BREVE* AND ACUTE;DOT BELOW;GRAVE;HOOK ABOVE;TILDE!CARON#IRCUMFLEX",
   "; AND ACUTE@DOT BELOW@GRAVE@HOOK ABOVE@TILDE!DIAERESIS: AND MACRON#OT ABOVE: AND MACRON&BELOW",
   "$UBLE GRAVE!GRAVE!HOOK ABOVE!INVERTED BREVE!MACRON!OGONEK!RETROFLEX HOOK#IGHT HALF RING",
   "$NG ABOVE; AND ACUTE*BELOW!STROKE!TILDEuAuEv WITH ACUTE#MACRONuLPHAy WITH RETROFLEX HOOK",
   "uNGLICANA WuOuUuVv WITH HORIZONTAL BARuYtBu WITH DOT ABOVE&BELOW!FLOURISH!HOOK!LINE BELOW",
   "!MIDDLE TILDE!PALATAL HOOK!STROKE!TOPBARuARRED ALPHA!E!OvSELINE ESHuETAuLACKLETTER E*O",
   "+ WITH STROKEuOTTOM HALF OuROKEN LtCu WITH ACUTE!BAR!CARON#EDILLA, AND ACUTE#IRCUMFLEX#URL",
   "!DOT ABOVE!HOOK!PALATAL HOOK!RETROFLEX HOOK!STROKEuHIw WITH LOW LEFT SERIF+RIGHT RING",
   "uLOSED INSULAR G!OMEGA#PEN E!REVERSED OPEN EuONuUATRILLO$ WITH COMMAtDu WITH CARON#EDILLA",
   "#IRCUMFLEX BELOW#URL!DOT ABOVE&BELOW!HOOK& AND TAIL!LINE BELOW!MIDDLE TILDE!PALATAL HOOK",
   "!SHORT STROKE OVERLAY#TROKE!TAIL#OPBARuB DIGRAPHuELTAvZH DIGRAPH* WITH PALATAL HOOK",
   "<RETROFLEX HOOKuOTLESS I#J$ WITH STROKE? AND HOOKvUBLE R# WITH CROSSED-TAIL!THORN!WYNNuUMuZ",
   "v DIGRAPH% WITH CURL:RETROFLEX HOOKwWITH CARONtEu WITH ACUTE!BREVE!CARON#EDILLA, AND BREVE",
   "#IRCUMFLEX; AND ACUTE@DOT BELOW@GRAVE@HOOK ABOVE@TILDE<BELOW!DIAERESIS#OT ABOVE&BELOW",
   "$UBLE GRAVE!FLOURISH!GRAVE!HOOK ABOVE!INVERTED BREVE!MACRON+ AND ACUTE<GRAVE!NOTCH!OGONEK",
   "!RETROFLEX HOOK!STROKE!TILDE* BELOWuGYPTOLOGICAL AIN.LEFuNGw WITH CROSSED-TAIL$PALATAL HOOKuSH",
   "w WITH CURL$DOUBLE BAR= AND CURL$PALATAL HOOK$RETROFLEX HOOKuTvHuZHw REVERSEDxWITH CARON%URL",
   "$PALATAL HOOK$RETROFLEX HOOK$TAILtFu WITH DOT ABOVE!HOOK!MIDDLE TILDE!PALATAL HOOK!STROKE",
   "uENG DIGRAPH* WITH TRILLtGu WITH ACUTE!BREVE!CARON#EDILLA#IRCUMFLEX!DOT ABOVE!HOOK!MACRON",
   "!OBLIQUE STROKE!PALATAL HOOK!STROKEuAMMAuHAuLOTTAL A#I#STOP#UtHu WITH BREVE BELOW!CARON#EDILLA",
   "#IRCUMFLEX!DESCENDER#IAERESIS#OT ABOVE&BELOW!HOOK!LINE BELOW!PALATAL HOOK!STROKEuALF HuENG",
   "x WITH HOOKuVtIu WITH ACUTE!BREVE!CARON#IRCUMFLEX!DIAERESIS: AND ACUTE#OT BELOW$UBLE GRAVE",
   "!GRAVE!HOOK ABOVE!INVERTED BREVE!MACRON!OGONEK!RETROFLEX HOOK!STROKE+ AND RETROFLEX HOOK!TILDE",
   "* BELOWuNSULAR D#F#G#R#S#TvVERTED ALPHA$OEuOTAx WITH STROKEwIFIED EuStJu WITH CARON#IRCUMFLEX",
   "#ROSSED-TAIL!STROKEtKu WITH ACUTE!CARON#EDILLA!DESCENDER#IAGONAL STROKE#OT BELOW!HOOK",
   "!LINE BELOW!OBLIQUE STROKE!PALATAL HOOK!STROKE+ AND DIAGONAL STROKEuRAtLu WITH ACUTE!BAR#ELT",
   "& AND PALATAL HOOK!CARON#EDILLA#IRCUMFLEX BELOW#URL!DOT BELOW: AND MACRON$UBLE BAR",
   ",MIDDLE TILDE!FISHHOOK!HIGH STROKE!INVERTED LAZY S!LINE BELOW!MIDDLE DOT,RING,TILDE",
   "!PALATAL HOOK!RETROFLEX HOOK? AND BELT!STROKEuAMBDA WITH STROKEuENIS FvZHx WITH RETROFLEX HOOK",
   "uJuONG Sz WITH DIAGONAL STROKE+OT ABOVE*HIGH STROKEuS DIGRAPHuUMuZ DIGRAPHtMu WITH ACUTE",
   "!CROSSED-TAIL!DOT ABOVE&BELOW!HOOK!MIDDLE TILDE!PALATAL HOOKuIDDLE SCOTS Sz-WELSH LL+VuUMtN",
   "u PRECEDED BY APOSTROPHEvWITH ACUTE!CARON#EDILLA#IRCUMFLEX BELOW#ROSSED-TAIL#URL!DESCENDER",
   "#OT ABOVE&BELOW!GRAVE!LEFT HOOK#INE BELOW#ONG RIGHT LEG!MIDDLE TILDE!OBLIQUE STROKE",
   "!PALATAL HOOK!RETROFLEX HOOK!TILDEuJuUMtOu WITH ACUTE!BREVE!CARON#IRCUMFLEX; AND ACUTE",
   "@DOT BELOW@GRAVE@HOOK ABOVE@TILDE!DIAERESIS: AND MACRON#OT ABOVE: AND MACRON&BELOW$UBLE ACUTE",
   ",GRAVE!GRAVE!HOOK ABOVE$RN& AND ACUTE:DOT BELOW:GRAVE:HOOK ABOVE:TILDE!INVERTED BREVE",
   "!LONG STROKE OVERLAY$OP$W RING INSIDE!MACRON+ AND ACUTE<GRAVE!OGONEK+ AND MACRON",
   "!RETROFLEX HOOK!STROKE+ AND ACUTE!TILDE* AND ACUTE;DIAERESIS;MACRONuIuLD POLISH OuMEGAuOuPEN E",
   "z WITH RETROFLEX HOOKyOz WITH RETROFLEX HOOK*STROKEzEuUtPu WITH ACUTE!DOT ABOVE!FLOURISH!HOOK",
   "!MIDDLE TILDE!PALATAL HOOK!SQUIRREL TAIL#TROKE+ THROUGH DESCENDERuHItQu WITH DIAGONAL STROKE",
   "!HOOK& TAIL!STROKE THROUGH DESCENDERuP DIGRAPHtRu ROTUNDAvWITH ACUTE!CARON#EDILLA#ROSSED-TAIL",
   "!DOT ABOVE&BELOW: AND MACRON$UBLE GRAVE!FISHHOOK. AND MIDDLE TILDE>PALATAL HOOK!INVERTED BREVE",
   "!LINE BELOW#ONG LEG!MIDDLE TILDE!OBLIQUE STROKE!PALATAL HOOK!STROKE!TAILzOUT HANDLEuAMS HORN",
   "uEVERSED C% WITH DOT$E%NG$HALF H$K$OPEN E. WITH HOOK?RETROFLEX HOOK$R WITH FISHHOOK$SCRIPT G",
   "uUMw ROTUNDAtSu WITH ACUTE* AND DOT ABOVE!CARON* AND DOT ABOVE#EDILLA#IRCUMFLEX#OMMA BELOW#URL",
   "!DOT ABOVE&BELOW: AND DOT ABOVE!HOOK!MIDDLE TILDE!OBLIQUE STROKE!PALATAL HOOK",
   "!SHORT STROKE OVERLAY#WASH TAILuAKHA YATvLTILLOuCHWAy WITH HOOK&RETROFLEX HOOKvRIPT G",
   "# WITH CROSSED-TAIL!R# WITH RINGuHARP SuIDEWAYS DIAERESIZED U$O% WITH STROKE%PEN O$TURNED M$U",
   "vGMOID SuQUAT REVERSED ESHuTIRRUP RtTu WITH CARON#EDILLA#IRCUMFLEX BELOW#OMMA BELOW#URL",
   "!DIAERESIS%GONAL STROKE#OT ABOVE&BELOW!HOOK& AND RETROFLEX HOOK!LINE BELOW!MIDDLE TILDE",
   "!PALATAL HOOK!RETROFLEX HOOK!STROKEuAILLESS PHIuC DIGRAPH WITH CURLuESH DIGRAPH",
   "* WITH PALATAL HOOK<RETROFLEX HOOKuH WITH STRIKETHROUGHvORNy WITH STROKE; THROUGH DESCENDER",
   "uONE FIVEySIXyTWOvP HALF OuRESILLOuS DIGRAPH% WITH RETROFLEX HOOKuUMvRNED A#E#LPHA!DELTA!E!G!H",
   "# WITH FISHHOOK@ AND TAIL!I#NSULAR G!K!L!M# WITH LONG LEG!O OPEN-O. WITH STROKE#E",
   "$ WITH HORIZONTAL STROKE.STROKE#PEN E!R# WITH HOOK,LONG LEG@ AND RETROFLEX HOOK,MIDDLE TILDE",
   ",PALATAL HOOK,TAIL!T# WITH CURL!UI!V!W!Y# WITH BELTuZtUu BARy WITH SHORT RIGHT LEGvWITH ACUTE",
   "!BREVE!CARON#IRCUMFLEX; BELOW!DIAERESIS: AND ACUTE?CARON?GRAVE?MACRON;BELOW#OT BELOW",
   "$UBLE ACUTE,GRAVE!GRAVE!HOOK ABOVE$RN& AND ACUTE:DOT BELOW:GRAVE:HOOK ABOVE:TILDE",
   "!INVERTED BREVE!LEFT HOOK!MACRON+ AND DIAERESIS!OGONEK!RETROFLEX HOOK#ING ABOVE",
   "!SHORT RIGHT LEG#TROKE!TILDE* AND ACUTE+BELOWuEuIuMuOuPSILON! WITH STROKEtVu WITH CURL",
   "!DIAGONAL STROKE#OT BELOW!HOOK!PALATAL HOOK!RIGHT HOOK!TILDEuENDuISIGOTHIC ZuOLAPUK AE#OE#UEuY",
   "tWu WITH ACUTE!CIRCUMFLEX!DIAERESIS#OT ABOVE&BELOW!GRAVE!HOOK!RING ABOVEtXu WITH DIAERESIS",
   "#OT ABOVE!LONG LEFT LEG> AND LOW RIGHT RING?WITH SERIF$W RIGHT RING!PALATAL HOOKtYu WITH ACUTE",
   "!CIRCUMFLEX!DIAERESIS#OT ABOVE&BELOW!GRAVE!HOOK& ABOVE!LOOP!MACRON!RING ABOVE!SHORT RIGHT LEG",
   "#TROKE!TILDEuOGHtZu WITH ACUTE!CARON#IRCUMFLEX#URL!DESCENDER#OT ABOVE&BELOW!HOOK!LINE BELOW",
   "!MIDDLE TILDE!PALATAL HOOK!RETROFLEX HOOK!STROKE#WASH TAILnIGATURE FFxIxLwIwLvIJvLONG S TvOE",
   "vSThUBSCRIPT SMALL LETTER A%E%H%I%J%K%L%M%N%O%P%R%S&CHWA%T%U%V%XbEAF FLUTTERING IN WIND",
   "eY GREENcDGERcFT AND LOWER AND RIGHT TRIANGULAR THREE QUARTERS BLOCKpONE EIGHTH BLOCK",
   "jRIGHT DOUBLE TURNSTILEpTACKqRIANGULAR HALF BLOCK",
   "jUPPER AND RIGHT TRIANGULAR THREE QUARTERS BLOCKpONE EIGHTH BLOCKhGER BUBBLEiLE BRACKET",
   "s WITH DOTgRC LESS-THAN BRACKEThROW WITH CIRCLED PLUSqSMALL CIRCLE",
   "fBARB DOWN RIGHT BARB DOWN HARPOON!UP HARPOONkUP RIGHT BARB DOWN HARPOONyUP HARPOON",
   "gLACK LENTICULAR BRACKETlTORTOISE SHELL BRACKETfCEILINGgLOSED ENTRYgORNER BRACKETgURLY BRACKET",
   "s LOWER HOOKtMIDDLE PIECEtUPPER HOOKfDOTTED SUBSTITUTION BRACKEThUBLE ANGLE BRACKET",
   "mPARENTHESISmQUOTATION MARKmWIGGLY FENCEfFISH TAILhVE EIGHTHS BLOCKgLOORfHALF BLACK CIRCLE",
   "qSTARmOCKkCIRCLEq WITH DOTwFOUR DOTSwTHREE DOTSxWO DOTSkFOLDER",
   "kINVERSE MEDIUM SHADE AND RIGHT HALF BLOCKkMEDIUM SHADEkRUNNING MANhND TELEPHONE RECEIVER",
   "fLOW PARAPHRASE BRACKETgUGGAGEfMULTIMAPfNORMAL FACTOR SEMIDIRECT PRODUCTfONE EIGHTH BLOCK",
   "jQUARTER BLOCKgUTER JOINfPARENTHESISq EXTENSIONrLOWER HOOKrUPPER HOOKfRAISED OMISSION BRACKET",
   "gIGHT ARROWq THROUGH SMALL CIRCLErWITH DOUBLE VERTICAL STROKEwSTROKEwVERTICAL STROKE",
   "lBLACK ARROWlDOUBLE ARROWx WITH STROKE%VERTICAL STROKElOPEN-HEADED ARROWlSANS-SERIF ARROW",
   "lTRIANGLE-HEADED ARROWlWAVE ARROWmHITE ARROWfS-SHAPED BAG DELIMITERgEMIDIRECT PRODUCT",
   "hVEN EIGHTHS BLOCKgIDEWAYS U BRACKEThNGLE QUOTATION MARKgPEECH BUBBLEgQUARE BRACKETt EXTENSION",
   "uLOWER CORNERuUPPER CORNERuWITH DOUBLE STROKEzQUILLzSTROKEzTICK IN BOTTOM CORNER,TOP CORNER",
   "zUNDERBARgUBSTITUTION BRACKETfTACKgHIRD WHITE RIGHT POINTING INDEXhOUGHT BUBBLE",
   "hREE EIGHTHS BLOCKlQUARTERS BLOCKgORTOISE SHELL BRACKETgRANSPOSITION BRACKET",
   "hIANGLE BESIDE VERTICAL BARlULAR ONE QUARTER BLOCKfVERTICAL BAR WITH QUILLpOX LINE",
   "fWHITE CORNER BRACKETmURLY BRACKETlLENTICULAR BRACKETlPARENTHESISlSQUARE BRACKET",
   "lTORTOISE SHELL BRACKETgIGGLY FENCEgRITING HANDe-FACING ARMENIAN ETERNITY SIGNmFIST",
   "mSVASTI SIGNx WITH DOTSfHANDED INTERLACED PENTAGRAMfPOINTING ANGLE BRACKET",
   "oCURVED ANGLE BRACKEToDOUBLE ANGLE QUOTATION MARKoMAGNIFYING GLASS",
   "fSHADED WHITE RIGHTWARDS ARROWgIDE ARC ANTICLOCKWISE ARROWfTO-RIGHT EMBEDDINGoISOLATEoMARK",
   "oOVERRIDEeWARDS ARROWp ABOVE ALMOST EQUAL TOwREVERSE ALMOST EQUAL TO&TILDE OPERATOR",
   "wSHORT RIGHTWARDS ARROWwTILDE OPERATORrND UPPER AND LOWER ONE EIGHTH BLOCKqFROM BAR",
   "y TO BLACK DIAMONDqOVER RIGHTWARDS ARROWqTHROUGH LESS-THANySUBSETyXrO BAR",
   "w OVER RIGHTWARDS ARROW TO BARuLACK DIAMONDqWITH DOTTED STEMxUBLE VERTICAL STROKE",
   "vEQUILATERAL ARROWHEADvHOOKvLARGE TRIANGLE ARROWHEADwOOPvMEDIUM TRIANGLE ARROWHEAD",
   "vNOTCHED TAILvPLUS BELOWvSMALL EQUILATERAL ARROWHEAD#TRIANGLE ARROWHEADwTROKEvTAIL",
   "z WITH DOUBLE VERTICAL STROKE*VERTICAL STROKEwIP DOWNWARDSzUPWARDSvVERTICAL STROKEp-TAIL",
   "kBACK-TILTED SHADOWED WHITE ARROWlLACK ARROWqCIRCLED WHITE ARROWlOTTOM-SHADED WHITE ARROW",
   "kCOMPRESSED ARROWkDASHED ARROWlOUBLE ARROWw FROM BARxWITH STROKE$VERTICAL STROKEw-TAIL",
   "rDASH ARROWkFINGER-POST ARROWlRONT-TILTED SHADOWED WHITE ARROWkHAND",
   "mRPOON OVER RIGHTWARDS HARPOONsWITH BARB DOWN ABOVE RIGHTWARDS HARPOON WITH BARB DOWN",
   ",BELOW LONG DASH,FROM BAR,TO BAR+WARDS$UP ABOVE LEFTWARDS HARPOON WITH BARB DOWN=ONG DASH",
   "<RIGHTWARDS HARPOON WITH BARB UP*FROM BAR*TO BAR&WARDSlEAVY ARROWqCOMPRESSED ARROW",
   "kLEFT-SHADED WHITE ARROWkOPEN-HEADED ARROWkPAIRED ARROWSkQUADRUPLE ARROW",
   "kRIGHT-SHADED WHITE ARROWlOCKETkSANS-SERIF ARROWlQUARED ARROWnIGGLE ARROW",
   "kTOP SHADED WHITE ARROWlRIANGLE ARROWHEADs-HEADED ARROW* OVER RIGHTWARDS TRIANGLE-HEADED ARROW",
   "+TO BAR+WITH BOLD SHAFT<DOUBLE HORIZONTAL STROKE|VERTICAL STROKE<HEAVY SHAFT",
   "<LONG TIP DOWNWARDS(UPWARDS<MEDIUM SHAFT<NARROW SHAFT<VERY HEAVY SHAFT!DASHED ARROW",
   "!PAIRED ARROWSnPLE ARROWrDASH ARROWlWO HEADED ARROWn-HEADED ARROW FROM BAR",
   "#WITH DOUBLE VERTICAL STROKE+TAIL; WITH DOUBLE VERTICAL STROKE^VERTICAL STROKE",
   ",RIANGLE ARROWHEADS+VERTICAL STROKEvTRIPLE DASH ARROWkWAVE ARROWlHITE ARROW",
   "v WITHIN TRIANGLE ARROWHEADcGcMONcOdPARDcPCHA CONSONANT SIGN KxANGwLwMwNxYIN-DOwPwRwT",
   "hDIGIT EIGHTnFIVEoOURnNINEnONEnSEVENoIXnTHREEoWOnZEROhLETTER AoBApLAoCApHAoDApDApZAoFApLAoGA",
   "pLAoHApLAoJAoKApHApLAoLAoMApLAoNApGApYAoPApHApLAoRAoSApHAoTApHApSAqHApTAqHAoVAoWAoYA",
   "hPUNCTUATION CER-WAtNYET THYOOM TA-ROLtTA-ROLuSHOOKz CER-WAhSIGN NUKTAmRANiUBJOINED LETTER RA",
   "yYAhVOWEL SIGN AAsEsIsOtOsUtUcSS-THAN ABOVE DOUBLE-LINE EQUAL ABOVE GREATER-THAN",
   "qGREATER-THAN ABOVE DOUBLE-LINE EQUALqLEFTWARDS ARROWqSIMILAR ABOVE GREATER-THANyOR EQUAL",
   "rLANTED EQUAL ABOVE GREATER-THAN ABOVE SLANTED EQUALlND NOT APPROXIMATE",
   "oSINGLE-LINE NOT EQUAL TOkBUT NOT EQUAL TOvIVALENT TOkCLOSED BY CURVEz ABOVE SLANTED EQUAL",
   "kEQUAL TO OR GREATER-THANkOR APPROXIMATEnEQUAL TOqIVALENT TOnGREATER-THANnSLANTED EQUAL TO",
   "% WITH DOT ABOVE| RIGHT>INSIDElVER EQUAL TOkSIGNkWITH CIRCLE INSIDEpDOTpQUESTION MARK ABOVE",
   "cVEL SLIDERbFbIBRAcGATURE OPEN ET ORNAMENTdHT CHECK MARKgEIGHT SPOKED ASTERISK",
   "gFIVE POINTED BLACK STARlSPOKED ASTERISKhOUR POINTED BLACK CUSPzSTARgGREEK CROSS",
   "gLEFT TORTOISE SHELL BRACKET ORNAMENTgRAILhIGHT TORTOISE SHELL BRACKET ORNAMENTgSALTIREhHADE",
   "hIX SPOKED ASTERISKgTHREE POINTED BLACK STARhWELVE POINTED BLACK STARgVERTICAL BAR",
   "gWHITE SQUAREfNINGj MOODo BUBBLEcMBU DIGIT EIGHTmFIVEnOURmNINEmONEmSEVENnIXmTHREEnWOmZERO",
   "gEXCLAMATION MARKgLETTER BAoHAnCAoHAnDAoHAnGAoHAoYANnHAnJAoHAnKAoHAnLAnMAnNAoGAnPAoHAnRAnSAoHA",
   "oSAnTAoHAoRAnWAnYApNgQUESTION MARKgSIGN KEMPHRENGlLOOlMUKPHRENGlSA-IhMALL LETTER ANUSVARAtKA",
   "tLAtMAtNAuGAtPAtRAtTAhUBJOINED LETTER RAxWAxYAgVOWEL SIGN AsIsUrEsErIrOsOrUl-CARRIER LETTER",
   "dITED LIABILITY SIGNcNE FEEDfINTEGRATION NOT INCLUDING THE POLE",
   "rWITH RECTANGULAR PATH AROUND POLEwSEMICIRCULAR PATH AROUND POLEfSEPARATORfTABULATIONp SET",
   "eAR A SIGN A028Bp100-102q20Bq31Cp301r2r3r4r5r6r7r8r9AsBsCq10r1r2r3AsBsCr4r5r6r7r8r9q20r1r2r3r4",
   "r5r6r7r8r9q30r1r2r3r4r5r6r7r8r9q40r1r2r3r4r5r6r7r8r9q50r1r2r3r4r5r6r7r8r9q60r1r2r3r4r5r6r7r8r9",
   "q70r1p400-VASr1-VASr2-VASr3-VASr4-VASr5-VASr6-VASr7-VASr8-VASr9-VASq10-VASr1-VASr2-VASr3-VAS",
   "r4-VASr5-VASr6-VASr7-VASr8-VASp501r2r3r4r5r6r8r9q10r1r2r3r5r6q20r1r3r4r5r6r7r8r9q30r1r2r4r5r6",
   "r7r8r9q40r1r2r5r7r8r9q50r1r2r3r4r5r6r7r9q63r4r5r6r8r9q70r1r2r3r4r5r6r7r8r9q80r1r2r3r4r5r6r7r8",
   "r9q91r2r4r5r6r8p600r1r2r3r4r6r8r9q10r1r2r3r4r5r6r7r8r9q20r1r2r3r4r6r7r8r9q34r7r8q40r2r3r4r5r6",
   "r8r9q51r2r3r4r5r6r7r8r9q60r1r2r3r4p701 Ar2 Br3 Dr4 Er5 Fr6 Hr7 Jr8 Kr9 Ls-2 L2t3 L3t4 L4t6 L6",
   "q10 Wr1 Xr2 Yr3 OMEGAr4 ABBr5 BBr7 DDq26 EYYYq32 JEp800r1r2r3r4r5r6r7pB001s2s3s4s5s6s7s8s9r10",
   "s1s3s6s7r20s1tFtMs2tFtMs3tMs4s6s7s8s9r30s1s4s7s8s9r40s1s4s5s6s7s8s9r50s1s3s4s5s6s7s8s9r60s1s5",
   "s6s7s9r70s3s4s6s7s8s9r80s1s2s5s6s7q118r20s2s3r31AtBr64r71r80s8r91hB IDEOGRAM B100 MANv2 WOMAN",
   "v4 DEERv5 EQUIDwF MAREwM STALLIONv6F EWEwM RAMv7F SHE-GOATwM HE-GOATv8F SOWwM BOARv9F COW",
   "wM BULLu20 WHEATv1 BARLEYv2 OLIVEv3 SPICEv5 CYPERUSu30 OILv1 WINEv2u40 BRONZEv1 GOLDv2v5 WOOL",
   "v6u50v1 HORNv2v3v4v7v8v9 CLOTHu60v1v2 GARMENTv3 ARMOURv4v5v6v7v8v9u70v1v2v3 MONTHv4v6 TREEv7v8",
   "v9u80v1v2v3v4v5v9u90v1 HELMETt220 FOOTSTOOLv5 BATHTUBu30 SPEARv1 ARROWv2v3 SWORDv4v6",
   "u40 WHEELED CHARIOTv1 CHARIOTv2 CHARIOT FRAMEv3 WHEELv5v6v8v9u51v2v3v4 DARTv5v6v7v8v9",
   "sVESSEL B155!200$1$2$3$4$5$6$7$8$9#10$1$2$3$4$5$6$7$8$9#21$2$6$7$8$9#50!305jMONOGRAM B127 KAPO",
   "v8 KANAKOu33 AREPAv5 MERIu56 TURO2t247 DIPTEjSYLLABLE B001 DAv2 ROv3 PAv4 TEv5 TOv6 NAv7 DI",
   "v8 Av9 SEu10 Uv1 POv2 SOv3 MEv4 DOv5 MOv6 QAv7 ZAu20 ZOv1 QIv3 MUv4 NEv5 A2v6 RUv7 REv8 I",
   "v9 PU2u30 NIv1 SAv2 QOv3 RA3v6 JOv7 TIv8 Ev9 PIu40 WIv1 SIv2 WOv3 A3v4 KEv5 DEv6 JEv8 NWA",
   "u50 PUv1 DUv2 NOv3 RIv4 WAv5 NUv7 JAv8 SUv9 TAu60 RAv1 Ov2 PTEv5 JUv6 TA2v7 KIv8 RO2v9 TU",
   "u70 KOv1 DWEv2 PEv3 MIv4 ZEv5 WEv6 RA2v7 KAv8 QEu80 MAv1 KUv5 AUv7 TWEu90 DWOv1 TWOlMBOL B018",
   "t9s22s34s47t9s56s63t4s79s82t3t6t9dK SYMBOLeED PAPERCLIPScON FACEcPSeTICKcRA SIGNcSU LETTER AnE",
   "mBAmCAnHAmDAnZAmEnUmFAmGAnHAmHAnHAmImJAmKAnHAmLAmMAmNAnGAmOnEmPAnHAmSAnHAmTAnHAnONE MYA BOvCYA",
   "vJEUvNAvTIrNA POnSAoHAmUnEnHmWAmXAmYAnHAmZAnHAfPUNCTUATION COMMArFULL STOPcVRE TOURNOIS SIGN",
   "cZARDbLAMAbOBSTERcCKe WITH INK PENeING-SHIFT ONEoZEROcGICAL ANDl WITH DOT ABOVEtUBLE OVERBAR",
   "yUNDERBARrHORIZONTAL DASHrMIDDLE STEMrUNDERBARiORk OVERLAPPING LOGICAL ANDlWITH DOT ABOVE",
   "sUBLE OVERBARxUNDERBARqHORIZONTAL DASHqMIDDLE STEMcLLIPOP",
   "cNG DASH FROM LEFT MEMBER OF DOUBLE VERTICALgIVISIONgRUMfLEFT RIGHT ARROWqDOUBLE ARROWkTACK",
   "jWARDS ARROWu FROM BARpDOUBLE ARROW# FROM BARpSQUIGGLE ARROWfRIGHT TACKkWARDS ARROWv FROM BAR",
   "qDOUBLE ARROW$ FROM BARqSQUIGGLE ARROWcTION BOTTLEdUScUDLY CRYING FACEcVE HOTELfLETTER",
   "cW ASTERISKeBATTERYfRIGHTNESS SYMBOLeDOUBLE PRIME QUOTATION MARKeKAVYKAk WITH DOTeLINE",
   "dER BLADE SCISSORSgFIVE EIGHTHS BLOCKgHALF BLOCKlCIRCLElINVERSE WHITE CIRCLElMEDIUM SHADE",
   "gLEFT BALLPOINT PENmLOCK DIAGONAL LOWER MIDDLE LEFT TO LOWER CENTRE)LOWER RIGHT",
   "!UPPER CENTRE TO LOWER MIDDLE RIGHT) RIGHT^UPPER MIDDLE RIGHT+LEFT TO LOWER CENTRE",
   "(MIDDLE RIGHT?UPPER MIDDLE RIGHT+MIDDLE LEFT TO LOWER CENTRE)LOWER MIDDLE RIGHT)LOWER RIGHT",
   "lCRAYONlFOUNTAIN PENlPAINTBRUSHmENCILlQUADRANT CIRCULAR ARClSEMICIRCULAR ANTICLOCKWISE ARROW",
   "lTRIANGLErULAR MEDIUM SHADEgONE EIGHTH BLOCKkQUARTER BLOCK",
   "gRIGHT BLOCK DIAGONAL LOWER CENTRE TO LOWER MIDDLE RIGHT_UPPER MIDDLE RIGHT)R RIGHT",
   ",LEFT TO LOWER MIDDLE RIGHT@UPPER CENTRE)MIDDLE RIGHT,MIDDLE LEFT TO UPPER CENTRE",
   ") UPPER MIDDLE RIGHT) UPPER RIGHT#UPPER MIDDLE LEFT TO UPPER CENTRE) UPPER RIGHT",
   "mCORNER WITH DOTmDROP-SHADOWED WHITE SQUAREmPENCILmQUADRANT CIRCULAR ARC",
   "mSEMICIRCULAR CLOCKWISE ARROWnHADOWED WHITE CIRCLE#SQUAREmTRIANGLEsULAR MEDIUM SHADE",
   "gSEVEN EIGHTHS BLOCKgTHREE EIGHTHS BLOCKmQUARTERS BLOCKhRIANGULAR ONE QUARTER BLOCKcZENGE",
   "h DIVIDED BY HORIZONTAL RULEbREcIcMcObUGGAGEcNGSbYCIAN LETTER ApNoBpHoDoEpNoGoHoIoJoKpKoLoMpM",
   "oNpNoPoQoRoSoTpHpToUoWoXoZcDIAN LETTER ApNoBoCoDoEpNoFoGoIoKoLpYoMoNpNoOoQoRoSpSoTpToUoVoY",
   "hTRIANGULAR MARKcING FACE"]

end LoadBinding.Text
