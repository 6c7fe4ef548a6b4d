/-!
# Names of characters, A to C

The names that the Unicode standard gives to characters, as far as they are no series, with the
correct and the short names that it lists beside them: those that begin with A to C, in the
spelling of `Text/CharacterName`.
-/

namespace LoadBinding.Text

/-- The names that begin with A to C. -/
def namesAToC : List String :=
  ["aABACUSbC CURRENTcCORDIONeUNT OFcKdNOWLEDGEcTIVATE ARABIC FORM SHAPINGjSYMMETRIC SWAPPING",
   "cUTE ACCENThNGLEbDDRESSED TO THE SUBJECTcHESIVE BANDAGEcI SHAKTIcLAM ALIF LENGTHENER",
   "gCAPITAL LETTER ALIFvBAwHEvCHIvDAALIwHAvEvFAvGAwBEvHAvIvJIIMvKAFwHAwPOvLAAMvMIIMvNHAwUNwYAvO",
   "vPEvQAAFvRAvSHAwINNYIIYHEvTUvUvVAvWAWvYAwHEvZALhONSONANT MODIFIERgDIGIT EIGHTmFIVEnOURmNINE",
   "mONEmSEVENnIXmTHREEnWOmZEROgGEMINATE CONSONANT MODIFIERnION MARKgHAMZA",
   "gINITIAL EXCLAMATION MARKoQUESTION MARKgNASALIZATION MARKhUKTAgSMALL LETTER ALIFtBAuHEtCHI",
   "tDAALIuHAtEtFAtGAuBEtHAtItJIIMtKAFuHAuPOtLAAMtMIIMtNHAuUNuYAtOtPEtQAAFtRAtSHAuINNYIIYHEtTUtU",
   "tVAtWAWtYAuHEtZALgVOWEL LENGTHENERcMETOSdISSION TICKETScULTbEGEAN CHECK MARK",
   "hDRY MEASURE FIRST SUBUNIThLIQUID MEASURE FIRST SUBUNIThMEASURE SECOND SUBUNITpTHIRD SUBUNIT",
   "hNUMBER EIGHTt HUNDREDuTHOUSANDtYu THOUSANDoFIFTYt THOUSANDqVEs HUNDREDtTHOUSANDpORTY",
   "t THOUSANDqURs HUNDREDtTHOUSANDoNINEs HUNDREDtTHOUSANDsTYu THOUSANDoONEr HUNDREDsTHOUSAND",
   "oSEVENt HUNDREDuTHOUSANDtTYv THOUSANDpIXr HUNDREDsTHOUSANDrTYt THOUSANDoTENr THOUSANDpHIRTY",
   "u THOUSANDqREEt HUNDREDuTHOUSANDpWENTYu THOUSANDqOr HUNDREDsTHOUSANDhWEIGHT BASE UNIT",
   "oFIRST SUBUNITpOURTH SUBUNIToSECOND SUBUNIToTHIRD SUBUNITiORD SEPARATOR DOTwLINEcRIAL TRAMWAY",
   "bFGHANI SIGNbHOM CONSONANT SIGN MEDIAL LA$IGATING RA#RAfDIGIT EIGHTlFIVEmOURlNINElONElSEVENmIX",
   "lTHREEmWOlZEROfLETTER AnLTERNATE BAwGAwTAmBAnHAmCAnHAmDAnDAoHAnHAmGAnHAmHAmJAnHAmKAnHAmLAnLA",
   "mMAmNAnGAnNAnYAmPAnHAmRAmSAmTAnHAnTAoHAfNUMBER TENnWENTYfSIGN KILLERkRULAIkSECTION",
   "lMALL SECTIONgYMBOL VIfVOWEL SIGN ArArIrMrWqEqIrIqOqUrUbIRPLANEi ARRIVINGjDEPARTURE",
   "bKTIESELSKABbLARM CLOCKcCHEMICAL SYMBOL FOR AIRxLEMBICyKALI$-2yUMxMALGAMxNTIMONY ORExQUA REGIA",
   "+-2#VITAE+-2!FORTISxRSENICxSHESxURIPIGMENTwBATH OF MARY&VAPOURSxISMUTH ORExLACK SULFURxORAX#-2",
   "$3xRICKwCADUCEUSyLXyPUT MORTUUMxINNABARxOPPER ANTIMONIATE%ORExROCUS OF COPPER=-2+IRONyUCIBLE",
   "&-2*3*4*5wDAY-NIGHTxISSOLVE&-2zTILLwEARTHwFIREwGOLDxUMwHALF DRAM#OUNCExORSE DUNGyURwIRON ORE",
   "&-2!-COPPER OREwLEAD ORExODESTONEwMARCASITExERCURY SUBLIMATE>-2?3xONTHwNIGHTyTREwOIL",
   "wPHILOSOPHERS SULFURxOT ASHESyWDER$ED BRICKxRECIPITATExURIFYyTREFACTIONwQUICK LIMEzNTESSENCE",
   "wREALGAR%-2yGULUS% OF ANTIMONY@-2,IRON%-2&3&4yTORTxOCK SALT*-2wSAL-AMMONIACzT! OF ANTIMONY",
   "&COPPER ANTIMONIATExCEPTER OF JOVExILVERxOAPxPIRITxTARRED TRIDENTyRATUM SUPER STRATUM_-2",
   "xUBLIMATE OF ANTIMONY:COPPER:SALT OF ANTIMONY_COPPER&IONyLFURwTARTAR$-2xIN OREzCTURExRIDENT",
   "xUTTYwURINEwVERDIGRISxINEGAR% OF ANTIMONY%-2&3yTRIOL%-2wWATERyXcEF SYMBOLdMBICdRTcIEN MONSTER",
   "cL AROUND-PROFILEeEQUAL TOcMdOST EQUAL OR EQUAL TOnTOp WITH CIRCUMFLEX ACCENT",
   "cTERNATE ONE-WAY LEFT WAY TRAFFICiIVE KEY SYMBOLbMALGAMATION OR COPRODUCTcBULANCE",
   "cERICAN FOOTBALLcPERSANDdHORAbNATOLIAN HIEROGLYPH A001y2y3y4y5y6y7y8y9x10zAy1y2y3y4y5y6y7y8y9",
   "x20y1y2y3y4y5y6zAy7y8y9x30y1y2y3y4y5y6y7y8y9zAx40y1zAy2y3y4y5zAy6zAzBy7y8y9x50y1y2y3y4y5y6y7y8",
   "y9x60y1y2y3y4y5y6zAzBzCy7y8y9x70y1y2y3y4y5y6y7y8y9x80y1y2y3y4y5y6y7y8y9x90y1y2y3y4y5y6y7zAy8zA",
   "y9w100zAy1zAy2zAy3y4zAzBzCy5zAzBy6y7zAzBzCy8y9x10zAzBy1y2y3y4y5zAy6y7y8y9x20y1y2y3y4y5zAy6y7y8",
   "y9x30y1y2y3y4y5zAy6y7y8y9x40y1y2y3y4y5y6y7y8y9x50y1y2y3y4y5y6y7y8y9x60y1y2y3y4y5y6y7y8y9x70y1",
   "y2y3y4y5y6y7y8y9x80y1y2y3y4y5y6y7y8y9x90y1y2y3y4y5y6y7y8y9w200y1y2zAzBy3y4y5y6y7zAy8y9zAx10y1",
   "y2y3y4y5zAy6zAy7y8y9x20y1y2y3y4y5y6y7zAy8y9x30y1y2y3y4y5y6y7y8y9x40y1y2y3y4y5y6y7y8y9x50y1y2y3",
   "y4y5y6y7y8y9x60y1y2y3y4y5y6y7zAy8y9x70y1y2y3y4y5y6y7y8y9x80y1y2y3y4y5y6y7y8y9zAx90y1y2y3y4zAy5",
   "y6y7y8y9zAw300y1y2y3y4y5y6y7y8y9zAx10y1y2y3y4y5y6y7y8y9x20y1y2y3y4y5y6y7y8y9zAx30y1y2AzBzCy3y4",
   "y5y6zAzBzCy7y8y9x40y1y2y3y4y5y6y7y8y9x50y1y2y3y4y5y6y7y8y9zAx60y1y2y3y4zAy5y6y7y8zAy9x70y1zAy2",
   "y3y4y5y6y7y8y9x80y1zAy2y3 RA OR RIzAy4y5y6zAy7y8y9x90y1y2y3 EIGHTy4y5y6y7y8y9w400y1y2y3y4y5y6",
   "y7y8y9x10 BEGIN LOGOGRAM MARKzA END LOGOGRAM MARKy1y2y3y4y5y6y7y8y9x20y1y2y3y4y5y6y7y8y9x30y1",
   "y2y3y4y5y6y7y8y9x40y1y2y3y4y5y6y7y8y9x50zAy1y2y3y4y5y6y7zAy8y9x60y1y2y3y4y5y6y7y8y9x70y1y2y3y4",
   "y5y6y7y8y9x80y1y2y3y4y5y6y7y8y9x90y1y2y3y4y5y6y7w501y2y3y4y5y6y7y8y9x10y1y2y3y4y5y6y7y8y9x20y1",
   "y2y3y4y5y6y7y8y9x30fMICAL HEARTcCHORcD WITH DOTcGER SYMBOLdLEf WITH S INSIDElUNDERBARdRY FACE",
   "dSTROM SIGNdUISHED FACEcKHcTdENNA WITH BARSdICLOCKWISE CLOSED CIRCLE ARROWpONTOUR INTEGRAL",
   "oDOWNWARDS AND UPWARDS OPEN CIRCLE ARROWSoGAPPED CIRCLE ARROWoINTEGRATIONoOPEN CIRCLE ARROW",
   "oTOP SEMICIRCLE ARROWpRIANGLE-HEADED BOTTOM U-SHAPED ARROW&LEFT U-SHAPED ARROW",
   "&OPEN CIRCLE ARROW&RIGHT U-SHAPED ARROW&TOP U-SHAPED ARROWbPCcL FUNCTIONAL SYMBOL ALPHA",
   "# UNDERBARwBACKSLASH BARwCIRCLE BACKSLASH%DIAERESIS%JOT%STAR*ILE%UNDERBARxOMMA BAR",
   "wDEL DIAERESIS!STILE!TILDEzTA STILE$UNDERBARxIAMOND UNDERBARxOWN CARET TILDE#SHOE STILE",
   "#TACK JOT+UNDERBAR!WARDS VANEwEPSILON UNDERBARwGREATER-THAN DIAERESISwI-BEAMxOTA! UNDERBAR",
   "wJOT DIAERESIS!UNDERBARwLEFT SHOE STILE!WARDS VANEwOMEGA# UNDERBARwQUAD! BACKSLASH#CIRCLE$OLON",
   "#DEL&TA$IAMOND%VIDE$OWN CARET*WARDS ARROW#EQUAL#GREATER-THAN#JOT#LEFTWARDS ARROW%SS-THAN",
   "#NOT EQUAL#QUESTION#RIGHTWARDS ARROW#SLASH#UP CARET%WARDS ARROWyOTE QUAD$UNDERBARwRHO",
   "xIGHTWARDS VANEwSEMICOLON UNDERBARxLASH BARxQUISH QUADxTAR DIAERESISyILE TILDEwTILDE DIAERESIS",
   "wUP CARET TILDEzSHOE JOTzTACK DIAERESIS&JOT&OVERBARyWARDS VANEwZILDEcOLLONdSTROPHE",
   "cPLICATION PROGRAM COMMANDdROACHES THE LIMITfXIMATELY BUT NOT ACTUALLY EQUAL TO",
   "oEQUAL OR EQUAL TOuTOw OR THE IMAGE OFbQUARIUSbRABIC BASELINE ROUND DOThCOMMAiURLY DAMMAsTAN",
   "nFATHAsTANnKASRAsTANhDAMMAm ISOLATED FORMnMEDIAL FORMnWITH DOTmTANp ISOLATED FORMjTE SEPARATOR",
   "iECIMAL SEPARATORiISPUTED END OF AYAHiOUBLE RIGHT ARROWHEAD ABOVE: WITH DOTnD MADDA",
   "hEMPTY CENTRE HIGH STOPuLOW STOPiND OF AYAHoTEXT MARKhFATHAm ISOLATED FORMnMEDIAL FORM",
   "nWITH DOT ABOVEsRINGsTWO DOTSmTANp ISOLATED FORMiIVE POINTED STARiOOTNOTE MARKERiULL STOP",
   "hHALF MADDA OVER MADDAjMZA ABOVEnBELOWhINVERTED DAMMAhKASRAm ISOLATED FORMnMEDIAL FORM",
   "nWITH DOT BELOWmTANp ISOLATED FORMhLARGE CIRCLE BELOWnROUND DOT ABOVExBELOW",
   "xINSIDE CIRCLE BELOWiEFT ARROWHEAD ABOVEwBELOWjTTER AEpFRICAN FEHwNOONwQAF",
   "z WITH THREE DOTS ABOVEpINr FINAL FORMsINITIAL FORMtSOLATED FORMsMEDIAL FORM",
   "sWITH THREE DOTS ABOVE.BELOW.POINTING DOWNWARDS ABOVEyWO DOTS ABOVE+VERTICALLY ABOVEpLEF",
   "s FINAL FORMtISOLATED FORMtMAKSURA! FINAL FORM#ISOLATED FORMtWASLAy FINAL FORMzISOLATED FORM",
   "uITH ATTACHED BOTTOM RIGHT KASRA)ASRA AND DOT ABOVE)ASRA AND LEFT RING,FATHA,KASRA,LEFT HAMZA",
   "=ROUND DOT,RIGHT HAMZA>ROUND DOT.OUND DOT ABOVE_BELOW,TOP RIGHT FATHA)A AND DOT ABOVE",
   ")A AND LEFT RINGyDOT ABOVEyEXTENDED ARABIC-INDIC DIGIT THREE ABOVE)IGIT TWO ABOVEyHAMZA ABOVE",
   ": FINAL FORM;ISOLATED FORM&BELOW: FINAL FORM;ISOLATED FORMyLEFT MIDDLE STROKEyMADDA ABOVE",
   ": FINAL FORM;ISOLATED FORMyRIGHT MIDDLE STROKE_ AND DOT ABOVE) LEFT RINGyWAVY HAMZA ABOVE",
   ":BELOWoBEEHs FINAL FORMtINITIAL FORMuSOLATED FORMtMEDIAL FORMqHr FINAL FORMsINITIAL FORM",
   "tSOLATED FORMsMEDIAL FORMsWITH DOT BELOW AND THREE DOTS ABOVExHAMZA ABOVE",
   "xINVERTED SMALL V BELOWxSMALL MEEM ABOVE%V& BELOWxTHREE DOTS HORIZONTALLY BELOW",
   ".POINTING UPWARDS BELOW)RDS BELOW AND TWO DOTS ABOVEyWO DOTS BELOW AND DOT ABOVErEH",
   "t FINAL FORMuINITIAL FORMvSOLATED FORMuMEDIAL FORMoDADr FINAL FORMsINITIAL FORMtSOLATED FORM",
   "sMEDIAL FORMsWITH DOT BELOWqHALt FINAL FORMuISOLATED FORMqLr FINAL FORMsISOLATED FORM",
   "sWITH DOT BELOW+ AND SMALL TAHxFOUR DOTS ABOVExINVERTED SMALL V BELOW+VxRING",
   "xTHREE DOTS ABOVE DOWNWARDS.BELOWyWO DOTS VERTICALLY BELOW AND SMALL TAHpDAHALu FINAL FORM",
   "vISOLATED FORMrLs FINAL FORMtISOLATED FORMpOTLESS BEHwFEHwQAFpULr FINAL FORMsISOLATED FORMpYEH",
   "s FINAL FORMtINITIAL FORMuSOLATED FORMtMEDIAL FORMoEp FINAL FORMqINITIAL FORMrSOLATED FORM",
   "qMEDIAL FORMoFARSI YEHx FINAL FORMyINITIAL FORMzSOLATED FORMyMEDIAL FORM",
   "yWITH EXTENDED ARABIC-INDIC DIGIT FOUR BELOW)DIC DIGIT THREE ABOVE)DIC DIGIT TWO ABOVE",
   "%INVERTED V%THREE DOTS ABOVE&WO DOTS ABOVEpEHr FINAL FORMsINITIAL FORMtSOLATED FORM",
   "sMEDIAL FORMsWITH DOT BELOW+ AND THREE DOTS ABOVE#MOVED BELOWxTHREE DOTS BELOW",
   ".POINTING UPWARDS BELOWyWO DOTS BELOWoGAFr FINAL FORMsINITIAL FORMtSOLATED FORMsMEDIAL FORM",
   "sWITH INVERTED STROKExRINGxTHREE DOTS ABOVEyWO DOTS BELOWpHAINt FINAL FORMuINITIAL FORM",
   "vSOLATED FORMuMEDIAL FORMuWITH DOT BELOWzTHREE DOTS ABOVEpRAFpUEHs FINAL FORMtINITIAL FORM",
   "uSOLATED FORMtMEDIAL FORMoHAHr FINAL FORMsINITIAL FORMtSOLATED FORMsMEDIAL FORM",
   "sWITH EXTENDED ARABIC-INDIC DIGIT FOUR BELOWxHAMZA ABOVExINVERTED SMALL V BELOW",
   "xSMALL ARABIC LETTER TAH ABOVE)AND TWO DOTS)BELOWxTHREE DOTS ABOVE.POINTING UPWARDS BELOW",
   "yWO DOTS ABOVE+VERTICAL ABOVEqMZAt ISOLATED FORMpEHr DOACHASHMEE% FINAL FORM&INITIAL FORM",
   "*SOLATED FORM&MEDIAL FORMsFINAL FORMsGOALw FINAL FORMxINITIAL FORMySOLATED FORMxMEDIAL FORM",
   "xWITH HAMZA ABOVEsINITIAL FORMtSOLATED FORMsMEDIAL FORMsWITH INVERTED VxYEH ABOVE+ FINAL FORM",
   ",ISOLATED FORMpIGH HAMZAy ALEFzWAWzYEHoJEEMs FINAL FORMtINITIAL FORMuSOLATED FORMtMEDIAL FORM",
   "tWITH THREE DOTS ABOVE:BELOWzWO DOTS ABOVEqHr FINAL FORMsISOLATED FORMoKAFr FINAL FORM",
   "sINITIAL FORMtSOLATED FORMsMEDIAL FORMsWITH DOT ABOVE#BELOWxRINGxTHREE DOTS BELOW",
   "yWO DOTS ABOVEqSHMIRI YEHpEHEHt FINAL FORMuINITIAL FORMvSOLATED FORMuMEDIAL FORM",
   "uWITH DOT ABOVEzSMALL VzTHREE DOTS ABOVE;BELOW;POINTING UPWARDS BELOW!WO DOTS ABOVE",
   ".VERTICALLY BELOWpHAHs FINAL FORMtINITIAL FORMuSOLATED FORMtMEDIAL FORMpIRGHIZ OEy FINAL FORM",
   "zISOLATED FORMwYUy FINAL FORMzISOLATED FORMoLAMr FINAL FORMsINITIAL FORMtSOLATED FORM",
   "sMEDIAL FORMsWITH BARxDOT ABOVEzUBLE BARxSMALL ARABIC LETTER TAH ABOVE%VxTHREE DOTS ABOVE",
   ".BELOWpOW ALEFoMARKpEEMs FINAL FORMtINITIAL FORMuSOLATED FORMtMEDIAL FORMtWITH DOT ABOVE$BELOW",
   "yTHREE DOTS ABOVEoNGq FINAL FORMrINITIAL FORMsSOLATED FORMrMEDIAL FORMqOEHt FINAL FORM",
   "uINITIAL FORMvSOLATED FORMuMEDIAL FORMpOONs FINAL FORMtGHUNNAz FINAL FORM!ISOLATED FORM",
   "tINITIAL FORMuSOLATED FORMtMEDIAL FORMtWITH DOT BELOWyINVERTED SMALL VyRINGySMALL TAH&V",
   "yTHREE DOTS ABOVEzWO DOTS BELOWpYEHs FINAL FORMtINITIAL FORMuSOLATED FORMtMEDIAL FORMoOE",
   "q FINAL FORMrISOLATED FORMoPEHr FINAL FORMsINITIAL FORMtSOLATED FORMsMEDIAL FORM",
   "sWITH SMALL MEEM ABOVE%VrEHt FINAL FORMuINITIAL FORMvSOLATED FORMuMEDIAL FORMoQAFr FINAL FORM",
   "sINITIAL FORMtSOLATED FORMsMEDIAL FORMsWITH DOT ABOVE#BELOW+ AND NO DOTS ABOVE",
   "xTHREE DOTS ABOVEoREHr FINAL FORMsISOLATED FORMsWITH DOT BELOW+ AND DOT ABOVExFOUR DOTS ABOVE",
   "xHAMZA ABOVExINVERTED VxLOOPxRINGxSMALL ARABIC LETTER TAH AND TWO DOTS%NOON ABOVE%V& BELOW",
   "yTROKExTWO DOTS ABOVE+VERTICALLY ABOVEpNOONt FINAL FORMuINITIAL FORMvSOLATED FORMuMEDIAL FORM",
   "pOHINGYA YEHpREHs FINAL FORMtISOLATED FORMoSADr FINAL FORMsINITIAL FORMtSOLATED FORM",
   "sMEDIAL FORMsWITH THREE DOTS ABOVE.BELOWyWO DOTS BELOWpEENs FINAL FORMtINITIAL FORM",
   "uSOLATED FORMtMEDIAL FORMtWITH DOT BELOW AND DOT ABOVEyEXTENDED ARABIC-INDIC DIGIT FOUR ABOVE",
   "yFOUR DOTS ABOVEyINVERTED VySMALL ARABIC LETTER TAH AND TWO DOTSyTHREE DOTS BELOW",
   "? AND THREE DOTS ABOVEzWO DOTS VERTICALLY ABOVEpHEENt FINAL FORMuINITIAL FORMvSOLATED FORM",
   "uMEDIAL FORMuWITH DOT BELOWpTRAIGHT WAWpUPERSCRIPT ALEFpWASH KAFoTAHr FINAL FORMsINITIAL FORM",
   "tSOLATED FORMsMEDIAL FORMsWITH DOT BELOWxTHREE DOTS ABOVE.BELOWyWO DOTS ABOVEpCHEHt FINAL FORM",
   "uINITIAL FORMvSOLATED FORMuMEDIAL FORMuWITH DOT ABOVEzSMALL VtEHv FINAL FORMwINITIAL FORM",
   "xSOLATED FORMwMEDIAL FORMpEHr FINAL FORMsINITIAL FORMtSOLATED FORMsMARBUTAz FINAL FORM!GOAL",
   "!ISOLATED FORMtEDIAL FORMsWITH RINGxSMALL TEH ABOVE%VxTHREE DOTS ABOVE DOWNWARDSrEH",
   "t FINAL FORMuINITIAL FORMvSOLATED FORMuMEDIAL FORMpHALs FINAL FORMtISOLATED FORMqEH",
   "s FINAL FORMtINITIAL FORMuSOLATED FORMtMEDIAL FORMqIN YEHpTEHs FINAL FORMtINITIAL FORM",
   "uSOLATED FORMtMEDIAL FORMtWITH SMALL VsEHu FINAL FORMvINITIAL FORMwSOLATED FORMvMEDIAL FORMoU",
   "p FINAL FORMqISOLATED FORMqWITH HAMZA ABOVE+ ISOLATED FORM",
   "pIGHUR KAZAKH KIRGHIZ ALEF MAKSURA INITIAL FORM)A MEDIAL FORMoVEq FINAL FORMrISOLATED FORMqH",
   "r FINAL FORMsINITIAL FORMtSOLATED FORMsMEDIAL FORMoWAWr FINAL FORMsISOLATED FORM",
   "sWITH DOT ABOVE#WITHINxEXTENDED ARABIC-INDIC DIGIT THREE ABOVE)GIT TWO ABOVExHAMZA ABOVE",
   ". FINAL FORM:ISOLATED FORMxRINGxTWO DOTS ABOVEoYEHr BARREEy FINAL FORMzISOLATED FORM",
   "zWITH EXTENDED ARABIC-INDIC DIGIT THREE ABOVE)NDIC DIGIT TWO ABOVE&HAMZA ABOVE@ FINAL FORM",
   "^ISOLATED FORMsFINAL FORMsINITIAL FORMtSOLATED FORMsMEDIAL FORMsWITH HAMZA ABOVE. FINAL FORM",
   ":INITIAL FORM;SOLATED FORM:MEDIAL FORMxSMALL VxTAILyHREE DOTS BELOW",
   "yWO DOTS BELOW AND DOT ABOVE^HAMZA ABOVE^SMALL NOON ABOVEpUq FINAL FORMrISOLATED FORMoZAH",
   "r FINAL FORMsINITIAL FORMtSOLATED FORMsMEDIAL FORMqINs FINAL FORMtISOLATED FORM",
   "tWITH INVERTED V ABOVEiIGATURE AIN WITH ALEF MAKSURA FINAL FORM=ISOLATED FORM",
   "zJEEM INITIAL FORM*SOLATED FORM&WITH MEEM FINAL FORM?INITIAL FORMzMEEM INITIAL FORM",
   "*SOLATED FORM&WITH ALEF MAKSURA FINAL FORM:MEEM FINAL FORM?INITIAL FORM:YEH FINAL FORM",
   "zYEH FINAL FORM%ISOLATED FORMrKBAR ISOLATED FORMrLAYHAA AS-SALAAMvE ISOLATED FORMvI AS-SALAAM",
   "*TU WAS-SALAAMwM AS-SALAAMxAA AS-SALAAMsEF MAKSURA WITH SUPERSCRIPT ALEF FINAL FORM",
   ")LEF ISOLATED FORMvWITH FATHATAN FINAL FORM:ISOLATED FORMsLAH ISOLATED FORMrZZA WA JALL",
   "qBEH WITH ALEF MAKSURA FINAL FORM=ISOLATED FORMzHAH INITIAL FORM&SOLATED FORM",
   "%WITH YEH FINAL FORM!EH INITIAL FORM%MEDIAL FORMzJEEM INITIAL FORM*SOLATED FORM",
   "zKHAH INITIAL FORM*SOLATED FORM&WITH YEH FINAL FORMzMEEM FINAL FORM&INITIAL FORM*SOLATED FORM",
   "&MEDIAL FORMzNOON FINAL FORMzREH FINAL FORMzYEH FINAL FORM%ISOLATED FORMzZAIN FINAL FORM",
   "rISMILLAH AR-RAHMAN AR-RAHEEMqDAD WITH ALEF MAKSURA FINAL FORM=ISOLATED FORMzHAH INITIAL FORM",
   "&SOLATED FORM%WITH ALEF MAKSURA FINAL FORM.YEH FINAL FORMzJEEM INITIAL FORM*SOLATED FORM",
   "zKHAH INITIAL FORM*SOLATED FORM&WITH MEEM FINAL FORM?INITIAL FORMzMEEM INITIAL FORM",
   "*SOLATED FORMzREH FINAL FORM%ISOLATED FORMzYEH FINAL FORM%ISOLATED FORM",
   "qFEH WITH ALEF MAKSURA FINAL FORM=ISOLATED FORMzHAH INITIAL FORM&SOLATED FORM",
   "zJEEM INITIAL FORM*SOLATED FORMzKHAH INITIAL FORM*SOLATED FORM&WITH MEEM FINAL FORM",
   "?INITIAL FORMzMEEM INITIAL FORM*SOLATED FORM&WITH YEH FINAL FORMzYEH FINAL FORM%ISOLATED FORM",
   "qGHAIN WITH ALEF MAKSURA FINAL FORM?ISOLATED FORM#JEEM INITIAL FORM,SOLATED FORM",
   "#MEEM INITIAL FORM,SOLATED FORM+WITH ALEF MAKSURA FINAL FORM<MEEM FINAL FORM<YEH FINAL FORM",
   "#YEH FINAL FORM*ISOLATED FORMqHAH WITH ALEF MAKSURA FINAL FORM=ISOLATED FORMzJEEM INITIAL FORM",
   "*SOLATED FORM&WITH YEH FINAL FORMzMEEM INITIAL FORM*SOLATED FORM&WITH ALEF MAKSURA FINAL FORM",
   ":YEH FINAL FORMzYEH FINAL FORM%ISOLATED FORMrEH WITH ALEF MAKSURA ISOLATED FORM",
   "zJEEM INITIAL FORM*SOLATED FORMzMEEM INITIAL FORM*SOLATED FORM&WITH JEEM INITIAL FORM",
   ":MEEM INITIAL FORMzSUPERSCRIPT ALEF INITIAL FORMzYEH ISOLATED FORMqJALLAJALALOUHOU",
   "rEEM WITH ALEF MAKSURA FINAL FORM>ISOLATED FORM!HAH INITIAL FORM*SOLATED FORM",
   "&WITH ALEF MAKSURA FINAL FORM:YEH FINAL FORM!MEEM INITIAL FORM+SOLATED FORM",
   "*WITH ALEF MAKSURA FINAL FORM;HAH FINAL FORM?INITIAL FORM;YEH FINAL FORM!YEH FINAL FORM",
   "&ISOLATED FORMqKAF WITH ALEF FINAL FORM&ISOLATED FORM&MAKSURA FINAL FORM=ISOLATED FORM",
   "zHAH INITIAL FORM&SOLATED FORMzJEEM INITIAL FORM*SOLATED FORMzKHAH INITIAL FORM*SOLATED FORM",
   "zLAM FINAL FORM%INITIAL FORM&SOLATED FORM%MEDIAL FORMzMEEM FINAL FORM&INITIAL FORM",
   "*SOLATED FORM&MEDIAL FORM&WITH MEEM FINAL FORM?INITIAL FORM:YEH FINAL FORMzYEH FINAL FORM",
   "%ISOLATED FORMrHAH WITH ALEF MAKSURA FINAL FORM>ISOLATED FORM!HAH ISOLATED FORM",
   "!JEEM INITIAL FORM+SOLATED FORM!MEEM INITIAL FORM+SOLATED FORM!YEH FINAL FORM&ISOLATED FORM",
   "qLAM WITH ALEF FINAL FORM&ISOLATED FORM&MAKSURA FINAL FORM=ISOLATED FORM",
   "&WITH HAMZA ABOVE FINAL FORM)ISOLATED FORM@BELOW FINAL FORM)ISOLATED FORM",
   ":MADDA ABOVE FINAL FORM)ISOLATED FORMzHAH INITIAL FORM&SOLATED FORM",
   "%WITH ALEF MAKSURA FINAL FORM.MEEM FINAL FORM>INITIAL FORM.YEH FINAL FORM!EH INITIAL FORM",
   "zJEEM INITIAL FORM*SOLATED FORM&WITH JEEM FINAL FORM?INITIAL FORM:MEEM FINAL FORM?INITIAL FORM",
   ":YEH FINAL FORMzKHAH INITIAL FORM*SOLATED FORM&WITH MEEM FINAL FORM?INITIAL FORM",
   "zMEEM FINAL FORM&INITIAL FORM*SOLATED FORM&MEDIAL FORM&WITH HAH FINAL FORM>INITIAL FORM",
   ":YEH FINAL FORMzYEH FINAL FORM%ISOLATED FORMqMEEM WITH ALEF FINAL FORM*MAKSURA ISOLATED FORM",
   "!HAH INITIAL FORM*SOLATED FORM&WITH JEEM INITIAL FORM:MEEM INITIAL FORM:YEH FINAL FORM",
   "!JEEM INITIAL FORM+SOLATED FORM*WITH HAH INITIAL FORM;KHAH INITIAL FORM;MEEM INITIAL FORM",
   ";YEH FINAL FORM!KHAH INITIAL FORM+SOLATED FORM*WITH JEEM INITIAL FORM;MEEM INITIAL FORM",
   ";YEH FINAL FORM!MEEM FINAL FORM*INITIAL FORM+SOLATED FORM*WITH YEH FINAL FORM",
   "!YEH ISOLATED FORMrOHAMMAD ISOLATED FORMqNOON WITH ALEF MAKSURA FINAL FORM>ISOLATED FORM",
   "!HAH INITIAL FORM*SOLATED FORM&WITH ALEF MAKSURA FINAL FORM:MEEM INITIAL FORM:YEH FINAL FORM",
   "#EH INITIAL FORM&MEDIAL FORM!JEEM INITIAL FORM+SOLATED FORM*WITH ALEF MAKSURA FINAL FORM",
   ";HAH FINAL FORM?INITIAL FORM;MEEM FINAL FORM@INITIAL FORM;YEH FINAL FORM!KHAH INITIAL FORM",
   "+SOLATED FORM!MEEM FINAL FORM*INITIAL FORM+SOLATED FORM*MEDIAL FORM",
   "*WITH ALEF MAKSURA FINAL FORM;YEH FINAL FORM!NOON FINAL FORM!REH FINAL FORM!YEH FINAL FORM",
   "&ISOLATED FORM!ZAIN FINAL FORMqQAF WITH ALEF MAKSURA FINAL FORM=ISOLATED FORMzHAH INITIAL FORM",
   "&SOLATED FORMzMEEM INITIAL FORM*SOLATED FORM&WITH HAH FINAL FORM>INITIAL FORM:MEEM FINAL FORM",
   ":YEH FINAL FORMzYEH FINAL FORM%ISOLATED FORMsLA USED AS KORANIC STOP SIGN ISOLATED FORM",
   "rUDDISA SIRRAHqRADI ALLAAHU ANH+AA+UM.AA,NNAsHIMAHU ALLAAHyM ALLAAHsSOUL ISOLATED FORM",
   "rEH WITH SUPERSCRIPT ALEF ISOLATED FORMqSAD WITH ALEF MAKSURA FINAL FORM=ISOLATED FORM",
   "zHAH INITIAL FORM&SOLATED FORM%WITH HAH FINAL FORM=INITIAL FORM.YEH FINAL FORM",
   "zKHAH INITIAL FORMzMEEM INITIAL FORM*SOLATED FORM&WITH MEEM FINAL FORM?INITIAL FORM",
   "zREH FINAL FORM%ISOLATED FORMzYEH FINAL FORM%ISOLATED FORMsLAAMUHU ALAYNAAuM ISOLATED FORM",
   "tLA ISOLATED FORMwUSED AS KORANIC STOP SIGN ISOLATED FORMvLLAAHU ALAYHI WA-AALIH",
   "yHOU ALAYHE WASALLAMzU ALAYHI WAAALIHEE WA-SALLAMrEEN WITH ALEF MAKSURA FINAL FORM",
   ">ISOLATED FORM!HAH INITIAL FORM*SOLATED FORM&MEDIAL FORM&WITH JEEM INITIAL FORM",
   "#EH INITIAL FORM&MEDIAL FORM!JEEM INITIAL FORM+SOLATED FORM*MEDIAL FORM",
   "*WITH ALEF MAKSURA FINAL FORM;HAH INITIAL FORM!KHAH INITIAL FORM+SOLATED FORM*MEDIAL FORM",
   "*WITH ALEF MAKSURA FINAL FORM;YEH FINAL FORM!MEEM INITIAL FORM+SOLATED FORM*MEDIAL FORM",
   "*WITH HAH FINAL FORM?INITIAL FORM;JEEM INITIAL FORM;MEEM FINAL FORM@INITIAL FORM",
   "!REH FINAL FORM&ISOLATED FORM!YEH FINAL FORM&ISOLATED FORMrHADDA WITH DAMMA ISOLATED FORM",
   ".MEDIAL FORM,TAN ISOLATED FORM$FATHA ISOLATED FORM.MEDIAL FORM$KASRA ISOLATED FORM.MEDIAL FORM",
   ",TAN ISOLATED FORM$SUPERSCRIPT ALEF ISOLATED FORMsEEN WITH ALEF MAKSURA FINAL FORM",
   "?ISOLATED FORM#HAH FINAL FORM*INITIAL FORM+SOLATED FORM*MEDIAL FORM*WITH MEEM FINAL FORM",
   "@INITIAL FORM;YEH FINAL FORM$EH INITIAL FORM*MEDIAL FORM#JEEM FINAL FORM+INITIAL FORM",
   ",SOLATED FORM+MEDIAL FORM+WITH YEH FINAL FORM#KHAH FINAL FORM+INITIAL FORM,SOLATED FORM",
   "+MEDIAL FORM#MEEM FINAL FORM+INITIAL FORM,SOLATED FORM+MEDIAL FORM+WITH KHAH FINAL FORM",
   "^INITIAL FORM<MEEM FINAL FORM^INITIAL FORM#REH FINAL FORM*ISOLATED FORM#YEH FINAL FORM",
   "*ISOLATED FORMrUBHAANAHU WA TAAALAAqTABAARAKA WA-TAAALAAsH WITH ALEF MAKSURA FINAL FORM",
   "=ISOLATED FORMzHAH INITIAL FORM&SOLATED FORMzMEEM INITIAL FORM*SOLATED FORM&MEDIAL FORM",
   "&WITH HAH FINAL FORM>INITIAL FORM:MEEM INITIAL FORM:YEH FINAL FORMzYEH FINAL FORM",
   "%ISOLATED FORMrEH WITH ALEF MAKSURA FINAL FORM=ISOLATED FORMzHAH INITIAL FORM&SOLATED FORM",
   "%WITH JEEM FINAL FORM>INITIAL FORM.MEEM INITIAL FORM!EH INITIAL FORM%MEDIAL FORM",
   "zJEEM INITIAL FORM*SOLATED FORM&WITH ALEF MAKSURA FINAL FORM:MEEM INITIAL FORM:YEH FINAL FORM",
   "zKHAH INITIAL FORM*SOLATED FORM&WITH ALEF MAKSURA FINAL FORM:MEEM INITIAL FORM:YEH FINAL FORM",
   "zMEEM FINAL FORM&INITIAL FORM*SOLATED FORM&MEDIAL FORM&WITH ALEF MAKSURA FINAL FORM",
   ":HAH INITIAL FORM:JEEM INITIAL FORM:KHAH INITIAL FORM:YEH FINAL FORMzNOON FINAL FORM",
   "zREH FINAL FORMzYEH FINAL FORM%ISOLATED FORMzZAIN FINAL FORM",
   "rHAL WITH SUPERSCRIPT ALEF ISOLATED FORMsEH WITH ALEF MAKSURA FINAL FORM>ISOLATED FORM",
   "!HEH MEDIAL FORM!JEEM ISOLATED FORM!MEEM FINAL FORM*INITIAL FORM+SOLATED FORM*MEDIAL FORM",
   "!NOON FINAL FORM!REH FINAL FORM!YEH FINAL FORM&ISOLATED FORM!ZAIN FINAL FORM",
   "qUIGHUR KIRGHIZ YEH WITH HAMZA ABOVE WITH ALEF MAKSURA FINAL FORM",
   ")BOVE WITH ALEF MAKSURA INITIAL FORM)BOVE WITH ALEF MAKSURA ISOLATED FORM",
   "qWASALLAM ISOLATED FORMqYEH WITH ALEF MAKSURA FINAL FORM=ISOLATED FORMzHAH INITIAL FORM",
   "&SOLATED FORM%WITH YEH FINAL FORM#MZA ABOVE WITH AE FINAL FORM~ISOLATED FORM_LEF FINAL FORM",
   ")ISOLATED FORM)MAKSURA FINAL FORM)MAKSURA ISOLATED FORM^E FINAL FORM|INITIAL FORM~SOLATED FORM",
   "^HAH INITIAL FORM)SOLATED FORM_EH INITIAL FORM(MEDIAL FORM^JEEM INITIAL FORM)ISOLATED FORM",
   "^KHAH INITIAL FORM^MEEM FINAL FORM)INITIAL FORM)ISOLATED FORM)MEDIAL FORM^NOON FINAL FORM",
   "^OE FINAL FORM~ISOLATED FORM^REH FINAL FORM^U FINAL FORM|ISOLATED FORM^WAW FINAL FORM",
   "(ISOLATED FORM^YEH FINAL FORM(ISOLATED FORM_U FINAL FORM~ISOLATED FORM^ZAIN FINAL FORM",
   "!EH INITIAL FORM%MEDIAL FORMzJEEM INITIAL FORM*SOLATED FORM&WITH YEH FINAL FORM",
   "zKHAH INITIAL FORM*SOLATED FORMzMEEM FINAL FORM&INITIAL FORM*SOLATED FORM&MEDIAL FORM",
   "&WITH MEEM FINAL FORM?INITIAL FORM:YEH FINAL FORMzNOON FINAL FORMzREH FINAL FORM",
   "zYEH FINAL FORM%ISOLATED FORMzZAIN FINAL FORMqZAH WITH MEEM INITIAL FORM*SOLATED FORM",
   "&MEDIAL FORMhMADDA WAAJIBmH ABOVEjRK NOON GHUNNAmSIDEWAYS NOON GHUNNAjTHEMATICAL AINvLEFuBEH",
   "uDADwLvOTLESS BEH$FEH$NOON$QAFwUBLE-STRUCK AIN.BEH.DAD;L.FEH.GHAIN.HAH.JEEM.KHAH.LAM.MEEM.NOON",
   ".QAF.REH.SAD:EEN:HEEN.TAH:EH:HAL;EH.WAW.YEH.ZAH;INuFEHuGHAINuHAHuINITIAL AIN$BEH$DAD$FEH$GHAIN",
   "$HAH%EH$JEEM$KAF%HAH$LAM$MEEM$NOON$QAF$SAD%EEN%HEEN$TEH%HEH$YEHuJEEMuKAFvHAHuLAMvOOPED AIN$LEF",
   "#BEH#DAD%L#FEH#GHAIN#HAH$EH#JEEM#KHAH#LAM#MEEM#NOON#QAF#REH#SAD$EEN$HEEN#TAH$EH$HAL%EH#WAW#YEH",
   "#ZAH%INuMEEMuNOONuOPERATOR HAH WITH DAL%MEEM WITH HAH WITH TATWEELuQAFuREHuSADvEENvHEEN",
   "vTRETCHED AIN&BEH&DAD*OTLESS BEH=FEH&FEH&GHAIN&HAH*EH&JEEM&KAF*HAH&MEEM&NOON&QAF&SAD*EEN*HEEN",
   "&TAH*EH*HEH&YEH&ZAHuTAHwILED AIN#DAD$OTLESS NOON:QAF#GHAIN#HAH#JEEM#KHAH#LAM#NOON#QAF#SAD$EEN",
   "$HEEN#YEHvEHvHALwEHuWAWuYEHuZAHwINhNUMBER MARK ABOVEoSIGNhOPEN DAMMATANmFATHATANmKASRATAN",
   "hPERCENT SIGNiIASTRE MARK ABOVEiLACE OF SAJDAHiOETIC VERSE SIGNjUND MARK ABOVEhQUESTION MARK",
   "hRAISED ROUND DOTjYiEVERSED DAMMAiIGHT ARROWHEAD ABOVE$ WITH DOTxBELOW",
   "iOUNDED HIGH STOP WITH FILLED CENTREhSEMICOLONiHADDAn ISOLATED FORMoMEDIAL FORM",
   "iIGN ALAYHE ASSALLAMmMISRAmRADI ALLAHOU ANHUoHMATULLAH ALAYHEmSAFHAoLLALLAHOU ALAYHE WASSALLAM",
   "oMVAToNAHnINDHI AMPERSANDtPOSTPOSITION MENmTAKHALLUSiMALL DAMMAnFARSI YEHpTHAnHIGH AIN",
   "sDOTLESS HEAD OF KHAHsFARSI YEHtOOTNOTE MARKERsJEEMsLAM ALEFtIGATURE ALEF WITH LAM WITH YEH",
   "#QAF WITH LAM WITH ALEF MAKSURA#SAD WITH LAM WITH ALEF MAKSURAsMADDAtEEM INITIAL FORM",
   "ySOLATED FORMsNOONw WITH KASRAsQAFsROUNDED ZEROsSADtEENtIGN SAFHAsTAHtHREE DOTS",
   "sUPRIGHT RECTANGULAR ZEROsWAWtORD AL-JUZyN-NISFyR-RUByS-SAJDAyTH-THALATHAxQIFxSAHzKTAxWAQFA",
   "sYEHv BARREE WITH TWO DOTS BELOWsZAHuINnKASRAnLOW MEEMrNOON WITH KASRArSEENrWAWsORD IMAALA",
   "xSHMAAMwTASHEELnWAWnYEHiTART OF RUB EL HIZBiUBSCRIPT ALEFjKUNm BELOWnISOLATED FORMnMEDIAL FORM",
   "jPERSCRIPT ALEF MOKHASSASiYMBOL DOT ABOVEsBELOWqUBLE VERTICAL BAR BELOWoFOUR DOTS ABOVEyBELOW",
   "oRINGoSMALL TAH ABOVEyBELOWoTHREE DOTS ABOVEzBELOWzPOINTING DOWNWARDS ABOVE|BELOW",
   "pWO DOTS ABOVExBELOWxVERTICALLY ABOVE.BELOWoWASLA ABOVEhTAIL FRAGMENTjTWEEL",
   "o WITH FATHATAN ABOVEuOVERSTRUCK HAMZA*WAWuTWO DOTS BELOWiHOUSANDS SEPARATORiONE LOOP ABOVE",
   "rBELOWmONE DOT ABOVEuBELOWmTWO DOTS ABOVEvBELOWiRIPLE DOT PUNCTUATION MARKiURNED DAMMA BELOW",
   "hVERTICAL TAILiOWEL SIGN DOT BELOWsINVERTED SMALL V ABOVEsSMALL V ABOVEhWAVY HAMZA BELOW",
   "hZWARAKAYg-INDIC CUBE ROOTnDIGIT EIGHTtFIVEuOURtNINEtONEtSEVENuIXtTHREEuWOtZEROnFOURTH ROOT",
   "nPER MILLE SIGNrTEN THOUSAND SIGNcCcIEScMENIAN ABBREVIATION MARKkPOSTROPHEjCAPITAL LETTER AYB",
   "yBENyCAzHA!EHzOyDAyECHzHzTyFEHyGHADzIMyHOyINIyJAzHEHyKEH!NyLIWNyMENyNOWyOHyPEHzIWRyRAzEHySEH",
   "zHAyTIWNzOyVEWzOyXEHyYI!WNyZAzHEkOMMAjDRAM SIGNjEMPHASIS MARKkXCLAMATION MARKjFULL STOPjHYPHEN",
   "jMODIFIER LETTER LEFT HALF RINGjQUESTION MARKjSMALL LETTER AYBwBENwCAxHAyEHxOwDAwECHxHxTwFEH",
   "wGHADxIMwHOwINIwJAxHEHwKEHyNwLIWNwMENwNOWwOHwPEHxIWRwRAxEHwSEHxHAwTIWNxOxURNED AYBwVEWxOwXEH",
   "wYIy WITH STROKEyWNwZAxHEqIGATURE ECH YIWNyMEN ECH$INI$NOW$XEHyVEW NOW",
   "cROW POINTING DOWNWARDS THEN CURVING LEFTWARDS=RIGHTWARDSpRIGHTWARDS THEN CURVING DOWNWARDS",
   ">SOUTH WEST>UPWARDSpUPWARDS THEN NORTH WESTfHEAD-SHAPED POINTERcTICULATED LORRYeST PALETTE",
   "bSCENDING NODEdIA SYMBOLcSERTIONcTERISKi OPERATORhMdONISHED FACEdRAEA",
   "eONOMICAL SYMBOL FOR URANUScYMPTOTICALLY EQUAL TObTHLETIC SHOEcOM SYMBOLbUBERGINEcSTRAL SIGN",
   "cTO RICKSHAWeMATED TELLER MACHINEfOBILEbVESTAN ABBREVIATION MARKiLETTER AqArNrOqErEqNqOpBEqHE",
   "pCEpDEqHEpEqEpFEpGEqGEqHEpHEqMEpIqIpJEpKEpLEpMEpNEqGErVErYEqNEqYEpOqOpPEpREpSEqHErYEqSHEpTEqHE",
   "qTEpUqUpVEpXEqVEqYEpYEqYEpZEqHEcOCADObXEaBABYe ANGELfBOTTLEfCHICKfSYMBOLcCK OF ENVELOPE",
   "fWITH LEFTWARDS ARROW ABOVEe-TILTED SHADOWED WHITE RIGHTWARDS ARROW",
   "eSLANTED SOUTH ARROW WITH HOOKED TAIL*RIZONTAL TAILfPACEdONdTRIAN CAMELcDGER",
   "dMINTON RACQUET AND SHUTTLECOCKcGELdGAGE CLAIMdUETTE BREADcLINESE ADEG ADEGjCARIK PAMUNGKAH",
   "rRERENpSIKIjDIGIT EIGHTpFIVEqOURpNINEpONEpSEVENqIXpTHREEqWOpZEROjLETTER AIKARArKARAv TEDUNG",
   "rRCHAIC JNYArSYURA SASAKqBAs KEMBANGqCAs LACAqDAs MADUuURDA ALPAPRANAzMAHAPRANAqEF SASAKrKARA",
   "qGAs GORAqHAqIKARAv TEDUNGqJAs JERAqKAs MAHAPRANAsF SASAKrHOT SASAKqLAs LENGAy TEDUNGqMAqNA",
   "s RAMBATrGArYAqOKARAv TEDUNGqPAs KAPALqRAs REPAx TEDUNGqSAs SAGAvPAqTAs LATIKtMURDA MAHAPRANA",
   "tTAWArZIR SASAKqUKARAv TEDUNGqVE SASAKqWAqYAqZAL SASAKjMUSICAL SYMBOL COMBINING BENDE.ENDEP",
   ".GONG.JEGOGAN.KEMPLI? WITH JEGOGAN=UL? WITH JEGOGAN.TEGEHyDAENG!ING!NG$ GEDE%SURANGzENG!UNG",
   "zINGzONGzUNGyLEFT-HAND CLOSED PLAK_UK.OPEN PANG?ING?UNGyRIGHT-HAND CLOSED TAK_UK:OPEN DAG@UG",
   "jPAMADAp LANTANGmENENGlNTIo LANTANGjSIGN BISAHoCECEKoREREKANoSURANGoULU CANDRAsRICEM",
   "jVOWEL SIGN LA LENGA$ TEDUNGuPEPETz TEDUNGuRA REPA# TEDUNGuSUKUy ILUTuTALING! REPA* TEDUNG",
   "#TEDUNGvEDUNGuULUx SARIjWINDUdL OF YARNeET SHOESeOONh-SPOKED ASTERISKfT BOLD SCRIPT XjX",
   "k WITH BALLOTrOLD CHECKvSCRIPT XqCHECKqLIGHT XqSCRIPT XqXhSCRIPT XhXcMUM COLON",
   "iMBINING MARK KOQNDONvTUKWENTISjMAgFULL STOPgLETTER AnEEnFAAMAEoEEoOMoUnInKAoENpTpUXoIoOpGHOM",
   "pVUUoPAoUoYEEnLAoEEEEoIoOQoUnMoAoBAApENoEEEEpNoIoOoUnNAoDAAoGApGApKWAENoIoJAEMpEEpUAEoSHAoTEE",
   "pUUoUpAEoYInOnPAoEEpUXoHASE-A FIRIvGBIEE FONwHEUAEGHEUAE#RAEvKAFAxQwETxUKEUTNDAwPOQwUOQvLAPAQ",
   "wET KUTwOMMAEwUxAEPvMAEKEUPyMzBGBIEEzKPENzVEUXyNYIySIxNSUAExP PIEETwBANYIyQwEUNJOMNDEUQwGBASA",
   "wON NGGEUAETxOMEUTzPUQwVEUAENGAMvNAA MFONxQwDA LEERAEWAyANGGEUAETwENwGANGUxGENxKUE MFON!NZEUM",
   "wIKAwJAMwKAARAExINDIwSHAyIEEwTAPz MFAA!NTAAxOQPENwYETxIyT MONGKEUAEQwZA MFONxUN MEUT",
   "vPA LEERAEWAxAMyRAExMSHAExSHAEwETwON MFON PIPAEMBA;GBIEEzPA NJI PIPAEMBA=GBIEEwUPvROMvSEUNYAM",
   "wHINDA PA NJIyRAExOQ NSHUT YUMxUENSHUETyMwISAwONJAMxQxTwUUvTEUAENyTEUWENwITA MFONwU MAEMBAxAEP",
   "vU YUQ NAEwNKNOWNvVEEtB FEExUXvGHEUGHEN$UAEMvKAMwEUAEMyPUQyYEUXwIEEMxQvLAANAExM NSHUT NYAMwET",
   "wOM NTEUMvMAx NJEUAENA!UQAwBA MAELEEyARAExEURIxIT MBAAKETxUOQwEUQyT NGGEETwFIYAQxON TEUAEQ",
   "wONTIEENvNDU NJAAwGGAAMyEU MBUyUOQ# LARGExKINDI MVOPxOMwSENxHUETwTIEE SHEUOQwYAEMAExI NTEUM",
   "vPARUMwEESHIwITwUNGAAMvSAKEUAEwET TUwHET NJAQyUAEQTUwIEEwUEvTAAMwU MAEMGBIEEyNSIEEvVEUMvWUAET",
   "vYAFU LEERAEWAwEURAEtC BUNGvFUEvGBAYIwHAPyRAEvKAAwEN FATIGUEzLAWxTxUKAQyMySEUXzHEUAEPwPARAQ",
   "wUOP NKAARAExTvLAMxPwIQwUvMA KEUAERIyNSIEExEMBAySIwBAA CABBAGE-TREE!PICKETyNYIxEEKEETyRAEyUMzX",
   "xIyRIEENyTxUAEMyEwGBASAQwIEEwUAEvNANSANAQxQwDAMyPxEUAEREEzTxIDAxOMBUwGAQxGENyUzAEN NYAMzEETzM",
   "zONxKAQyUE MAEMBAxOMwJAEMyMxEEEEyUXxUEQwSAxEUAENxHAQxOMxUNyOT NGOMwTAAxENyUNGBAxU MBIT",
   "wYIR MKPARAQ MEUNwZAxEUMvPENwINxRIEENvRUvSETFONxUXwHIQxUEQwUAETvTAASHAEwETxUTEUXwITA YUEyUAEP",
   "vVEUAEPENyXvWANGKUOQwUPvYAAwEUQwU MUOMAExMxWOQtD FAAwEUFEUAETvGHAAxEUAEvKETxUAETMEUNyM",
   "yOT MBUAEyPwUxNxOMxQwWAETwYEEvLEEEExTxUAEPyMwIEEwOQwUMvMwAENJETxLEERIwBAAz SEVENxUOwEEEExUNyT",
   "wFEUAEzTxIEExOyNwGBEUNyIEEyOFUMwONIwUwVOPvNDAMxEEyUXxONwGGAAM#AEzPyEUXyUOMyWAENxKAPyEUAEQ!RI",
   "yIEEyUNyYEEwIwJAPxEUAEMzTxIyEExUEQwSHEEyUTxIEEP!TxUMwTEEyUMxUUwUwYAMxETxIxUEvPAPwEExUTAEwIPwUQ",
   "xUTvRAEMwEN MUCHzOLDwIIvSAPxQwEUAEQwHEEyUAEzXxIIxOQxUwOTwUAExExUvTAEwEEEExUAENyNyTwIwOQwUxOT",
   "vWAPwUAENvYAEMMAEwENwUOMyPxWOQtE AvFAxQwEEwOMwU CALLyIyREMEDYxEyTvGBETyUXwHAAMAExETyUAEzNzXxOM",
   "vIvKETxUAEyXwIwOwPEUXwUETxOPxTvLAAMxPxQwEUAEMwOMxONyTxQwUvMAxEyMxPxQwBEEyUMwENwFEUQwGBAyENwI",
   "xEEwONwUAEwVIvNAxEwDAA MY HOUSE!SOFTNESSyPxIAQyQxUNwGAxEUREUTxGEEEEzUAE$TyUAESHAE NYAMzPzRAE",
   "xKAzAMIyEUAEM!XyUMzPxOPyQxUAE!TwJAEMLIxEEz EPOCHyUXwKOMwSHIEEyUEzOPwTAPxUMwYI BETWEENzCLEAVER",
   "wZAQxUQvOvPA PEOPLEzLURALxAyMwEEMxUTyXwIxEEQyTwOxONwUxAEyQxExMvRAExQwEUXwIMGBAvSAAwEExTwHEUAEQ",
   "xIQxOyQwOMwUAENvTAAyQxEN NTEUMxMxQwENxUyAEQwOOyNxQwUAExMyAEvVEExUAEwOMvWEUXwUExOvYAPwEUAE!TyM",
   "yXwIEExTwOQ COVERzSWIMMINGwUAENxEQxNxQtF EEvFOMvKAwENxTwOwPAwUwYEEvLAwIwOQvMwAwBAAxENwEEEEwO",
   "vNDAAwGGAxKWAENwIwJAEMxUAEwSHAwTEEwUxAEwYIvPEExUXwUAEvREExNxUXwIEExIwUvSAMBAwEUXwHIIxOxUwIwUU",
   "vTAAxEwETvUvVUEQvWAwUEvYAwOQoIoUAEpEnRAEoEEpNpUXoIEEpIoUnSAMBAoEUXoHEUXpIIpOpUoIoUUnTAApEoENpT",
   "oInUnWAoUEnYAoOQoUQgNJAEMLIgQUESTION MARKgSEMICOLONcNANAdJOdKeNOTE WITH DOLLAR SIGNoEURO SIGN",
   "oPOUND SIGNoYEN SIGNcR CHARTeOF SOAPdBER POLEcSEBALLdKETgBALL AND HOOP",
   "dSA VAH COMBINING HIGH TONEy-LOW TONEuLOW TONEx-MID TONEuMID TONEkFULL STOPkLETTER ArBArCE",
   "rDHIIsOrEsEsNNIrFArGAHsBUrHWAHrIrJOrKAsPAHrMBErOsOrPArSErTOrUsWUrVUrWAtDDArYEINsIErZOcT",
   "dAK CONSONANT SIGN HvNGgLETTER AnBAnCAnDAnGAnHAnInJAnKARO BAnLAnMApNDAILING HAyNAySAoBAnNAoDA",
   "oGAoORTHERN TAoYAnPApKPAK WAnRAnSAoIMALUNGUN AyGAyHAyLAyMAyPAyRAySAyWAyYAoOUTHERN TAnUnWAnYA",
   "gPANGOLATjONGONANgSIGN TOMPIhYMBOL BINDU JUDULtNA METEKtPANGOLATuINARBORASgVOWEL SIGN EsErI",
   "rKARO IwOrOrPAKPAK ErUs FOR SIMALUNGUN SAdHeTUBdTERYbEACH WITH UMBRELLA",
   "dMED ASCENDING MUSICAL NOTEShDESCENDING MUSICAL NOTEShEIGHTH NOTEShSIXTEENTH NOTESdNSdR FACE",
   "eDED PERSONdTING HEARTdVERcCAUSEcDcER MUGdTLEcLdLe PEPPERfSYMBOLfWITH CANCELLATION STROKE",
   "eHOP BELLcNGALI ABBREVIATION SIGNjNJIjU LENGTH MARKiCURRENCY DENOMINATOR SIXTEEN",
   "rNUMERATOR FOUR#ONE& LESS THAN THE DENOMINATOR#THREE$WOiDIGIT EIGHToFIVEpOURoNINEoONEoSEVENpIX",
   "oTHREEpWOoZEROiGANDA MARKiISSHARiLETTER AqAqIqUpBAqHApCAqHApDAqDArHAqHApEpGAqHApHApIqIpJAqHA",
   "pKAqHAsNDA TApLApMApNAqGAqNAqYApOpPAqHApRAr WITH LOWER DIAGONALxMIDDLE DIAGONALqHAqRApSAqHAqSA",
   "pTAqHAqTArHApUqUpVEDIC ANUSVARAqOCALIC LyLxRyRpYAqYAiRUPEE MARKoSIGNiSANDHI MARKjIGN ANUSVARA",
   "oVAGRAHAnCANDRABINDUnNUKTAnVIRAMApSARGAiVOWEL SIGN AAuIuUtEtIuItOtUuUtVOCALIC L$L#R$R",
   "dT ARROW POINTING DOWNWARDS THEN NORTH EASTeO BOXdZENE RINGm WITH CIRCLEcT SYMBOLdWEEN",
   "cVERAGE BOXbHAIKSUKI DANDAlIGIT EIGHTqFIVErOURqNINEqONEqSEVENrIXqTHREErWOqZEROlOUBLE DANDA",
   "kGAP FILLER-1v2kHUNDREDS UNIT MARKkLETTER AsAsIsUrBAsHArCAsHArDAsDAtHAsHArErGAsHArHArIsIrJAsHA",
   "rKAsHArLArMArNAsGAsNAsYArOrPAsHArRArSAsHAsSArTAsHAsTAtHArUsUrVAsOCALIC LzR!RrYAkNUMBER EIGHTwY",
   "rFIFTYtVEsORTYtURrNINEvTYrONErSEVENwTYsIXuTYrTENsHIRTYtREEsWENTYtOkSIGN ANUSVARAqVAGRAHA",
   "pCANDRABINDUpVIRAMArSARGAkVOWEL SIGN AAwIwUvEvIwIvOvUwUvVOCALIC L%R&RkWORD SEPARATORbICYCLE",
   "gISTcG REVERSE SOLIDUSeSOLIDUScKINIcLLED CAPeIARDScOHAZARD SIGNcRDdTHDAY CAKEcSONcTCOIN SIGN",
   "dING LIPbLACK BOWTIEgCENTRE WHITE STARhHESS BISHOPs ROTATED NINETY DEGREES",
   "#TWO HUNDRED SEVENTY DEGREESmEQUIHOPPERw ROTATED NINETY DEGREESmKINGq ROTATED NINETY DEGREES",
   "zTWO HUNDRED SEVENTY DEGREESnNIGHTs ROTATED FORTY-FIVE DEGREES#NINETY DEGREES",
   "#ONE HUNDRED THIRTY-FIVE DEGREES#THREE HUNDRED FIFTEEN DEGREES$WO HUNDRED SEVENTY DEGREES",
   ">TWENTY-FIVE DEGREESs-BISHOPtQUEENtROOKmPAWNq ROTATED NINETY DEGREES",
   "zTWO HUNDRED SEVENTY DEGREESmQUEENr ROTATED NINETY DEGREES!TWO HUNDRED SEVENTY DEGREESmROOK",
   "q ROTATED NINETY DEGREESzTWO HUNDRED SEVENTY DEGREESmTURNED BISHOPtKINGuNIGHTtPAWNtQUEENtROOK",
   "hIRCLEm FOR RECORDnWITH DOWN ARROWsTWO WHITE DOTSsWHITE DOT RIGHThLUB SUIThROSS ON SHIELD",
   "hURVED DOWNWARDS AND LEFTWARDS ARROW#RIGHTWARDS ARROWnLEFTWARDS AND DOWNWARDS ARROW",
   "#UPWARDS ARROWnRIGHTWARDS AND DOWNWARDS ARROW$UPWARDS ARROWnUPWARDS AND LEFTWARDS ARROW",
   "zRIGHTWARDS ARROWgDIAMONDn CENTREDoMINUS WHITE XoON CROSSoSUIToWITH DOWN ARROW",
   "hOWN POINTING BACKHAND INDEXk-POINTING DOUBLE TRIANGLEuISOSCELES RIGHT TRIANGLEuSMALL TRIANGLE",
   "uTRIANGLEkWARDS EQUILATERAL ARROWHEADhRAUGHTS KINGpMANiOPLETgFLAGiORETTEhOLDERiUR POINTED STAR",
   "gHARD SHELL FLOPPY DISKhEARTl SUITiXAGONhORIZONTAL ELLIPSEiURGLASSgLARGE CIRCLEmSQUARE",
   "hEFT LANE MERGElPOINTING BACKHAND INDEXuINDEXk-POINTING DOUBLE TRIANGLE: WITH VERTICAL BAR",
   "uISOSCELES RIGHT TRIANGLEuPOINTERuSMALL TRIANGLEuTRIANGLEkWARDS BULLETqEQUILATERAL ARROWHEAD",
   "hOWER LEFT TRIANGLEmRIGHT TRIANGLEiZENGEgMEDIUM DIAMONDoOWN-POINTING TRIANGLE: CENTRED",
   "nLEFT-POINTING TRIANGLE: CENTREDoOZENGEnRIGHT-POINTING TRIANGLE; CENTREDnSMALL DIAMONDtLOZENGE",
   "tSQUAREoQUAREnUP-POINTING TRIANGLE, CENTREDhOON LILITHgNIBgOCTAGONgPARALLELOGRAMhENNANTjTAGON",
   "hUSHPINgQUESTION MARK ORNAMENTgRECTANGLEhIGHT POINTING BACKHAND INDEXvINDEX",
   "l-POINTING DOUBLE TRIANGLE; WITH VERTICAL BARvISOSCELES RIGHT TRIANGLEvPENTAGONwOINTER",
   "vSMALL TRIANGLEvTRIANGLE% WITH DOUBLE VERTICAL BARlWARDS ARROWwHEADrBULLET",
   "rEQUILATERAL ARROWHEADhOSETTEgSAFETY SCISSORShCISSORShHOGI PIECEhKULL AND CROSSBONES",
   "hLIGHTLY SMALL CIRCLEvSQUAREhMALL DIAMONDmLOZENGEmSQUAREnTARiILING FACEhNOWMANhPADE SUIThQUARE",
   "m BUTTONnCENTREDnFOR STOPhTARhUN WITH RAYSgTELEPHONEhINY DIAMONDlLOZENGElSQUARE",
   "hOUCHTONE TELEPHONEhRUCKhWO-WAY LEFT WAY TRAFFICgUNIVERSAL RECYCLING SYMBOL",
   "hP POINTING BACKHAND INDEXi-POINTING DOUBLE TRIANGLEsISOSCELES RIGHT TRIANGLEsSMALL TRIANGLE",
   "sTRIANGLEiPER LEFT TRIANGLEmRIGHT TRIANGLEiWARDS EQUILATERAL ARROWHEADgVERTICAL ELLIPSE",
   "pRECTANGLEjY SMALL DIAMONDrLOZENGErSQUAREf-FEATHERED NORTH EAST ARROWqRIGHTWARDS ARROW",
   "qSOUTH EAST ARROWgLETTER CAPITAL CvHvIvRvZdNK SYMBOLcOCK SEXTANT-1p2q3r4s5s6r5s6r6q4r5s6r6q5r6",
   "q6p3q4r5s6r6q56q6p4q5r6q6p5q6p6o2p3q4r5s6r6q5r6q6p4q5r6p5q6p6o3p4q5r6q6p5q6p6o4p5q6p6o5p6o6",
   "dSSOMdWFISHcUE BOOKfHEARTeBERRIESbOARcLD EIGHT SPOKED ASTERISKfFIVE SPOKED ASTERISK",
   "fGREEK CROSSfSALTIREgIX SPOKED ASTERISKfWHITE CIRCLElSQUAREcMdBcNEcOKeMARKi TABSeSdMERANG",
   "cPOMOFO FINAL LETTER GwHwKwPwTjLETTER ArHrIsNNrMrNsGsNrUsNNqBrUqCrHqDqErErHrIrNsGsNrRqFqGrHrN",
   "rUrWqHqIrHrMrNNtNrRrUqJrIqKrWqLrHqMqNrGsGrNqOr WITH DOT ABOVErErMrNGsNrOrUqPqQqRqSrHqTqUrNNqV",
   "qXqZrHrIrYcTTLE WITH POPPING CORKeOM ARC ANTICLOCKWISE ARROWhCURLY BRACKEThHALF BLACK CIRCLE",
   "mINTEGRALmLEFT PARENTHESISmRIGHT PARENTHESIShLEFT CORNERnROPmHALF BRACKEThPARENTHESIS",
   "hRIGHT CORNERoROPnHALF BRACKEThSQUARE BRACKETv OVER TOP SQUARE BRACKEThTORTOISE SHELL BRACKET",
   "cUQUETh OF FLOWERScW AND ARROWdL OF HYGIEIAfWITH SPOONeINGdTIEg WITH LEFT HALF BLACK",
   "mRIGHT HALF BLACKcX DRAWINGS DOUBLE DOWN AND HORIZONTAL%LEFT%RIGHTuHORIZONTAL",
   "uUP AND HORIZONTAL#LEFT#RIGHTuVERTICAL$ AND HORIZONTAL,LEFT,RIGHT",
   "pWN DOUBLE AND HORIZONTAL SINGLE%LEFT SINGLE%RIGHT SINGLEsHEAVY AND HORIZONTAL LIGHT",
   "$LEFT LIGHT,UP LIGHT$RIGHT LIGHT.UP LIGHT$UP HORIZONTAL LIGHTsLIGHT AND HORIZONTAL HEAVY",
   "$LEFT HEAVY,UP HEAVY$RIGHT HEAVY.UP HEAVY$UP HORIZONTAL HEAVYsSINGLE AND HORIZONTAL DOUBLE",
   "%LEFT DOUBLE%RIGHT DOUBLEnHEAVY DOUBLE DASH HORIZONTAL*VERTICALvWNx AND HORIZONTAL$LEFT$RIGHT",
   "tHORIZONTALtLEFTx AND LIGHT RIGHTtQUADRUPLE DASH HORIZONTAL.VERTICALtRIGHT",
   "tTRIPLE DASH HORIZONTAL*VERTICALtUPv AND HORIZONTAL!LEFT#IGHT DOWN!RIGHTtVERTICAL",
   "# AND HORIZONTAL+LEFT+RIGHTnLEFT DOWN HEAVY AND RIGHT UP LIGHTsHEAVY AND RIGHT DOWN LIGHT",
   ".UP LIGHT.VERTICAL LIGHTsLIGHT AND RIGHT DOWN HEAVY.UP HEAVY.VERTICAL HEAVY",
   "sUP HEAVY AND RIGHT DOWN LIGHToIGHT ARC DOWN AND LEFT+RIGHTxUP AND LEFT&RIGHTtDIAGONAL CROSS",
   "$DIAMOND$MIDDLE LEFT TO LOWER CENTRE)R CENTRE TO MIDDLE RIGHT_UPPER CENTRE TO MIDDLE RIGHT",
   ")R CENTRE TO MIDDLE RIGHT TO LOWER CENTRE:RIGHT TO LOWER CENTRE",
   "|UPPER CENTRE TO MIDDLE LEFT TO LOWER CENTRE$UPPER CENTRE TO MIDDLE LEFT",
   ")DLE LEFT AND MIDDLE RIGHT TO LOWER CENTRE)DLE LEFT TO LOWER CENTRE",
   ")DLE LEFT TO LOWER CENTRE TO MIDDLE RIGHT)DLE RIGHT)DLE RIGHT AND MIDDLE LEFT TO LOWER CENTRE",
   ")DLE RIGHT TO LOWER CENTRE)DLE RIGHT TO LOWER CENTRE TO MIDDLE LEFT.LEFT TO LOWER RIGHT",
   ".RIGHT TO LOWER LEFTuOUBLE DASH HORIZONTAL*VERTICALvWNx AND HORIZONTAL$LEFT$RIGHTtHORIZONTAL",
   "% WITH VERTICAL STROKEtLEFTx AND HEAVY RIGHTtQUADRUPLE DASH HORIZONTAL.VERTICALtRIGHT",
   "tTRIPLE DASH HORIZONTAL*VERTICALtUPv AND HEAVY DOWN#ORIZONTAL!LEFT!RIGHTtVERTICAL",
   "# AND HORIZONTAL+LEFT+RIGHTnRIGHT DOWN HEAVY AND LEFT UP LIGHTtHEAVY AND LEFT DOWN LIGHT",
   ".UP LIGHT.VERTICAL LIGHTtLIGHT AND LEFT DOWN HEAVY.UP HEAVY.VERTICAL HEAVY",
   "tUP HEAVY AND LEFT DOWN LIGHTnUP DOUBLE AND HORIZONTAL SINGLE#LEFT SINGLE#RIGHT SINGLE",
   "qHEAVY AND DOWN HORIZONTAL LIGHT!HORIZONTAL LIGHT!LEFT DOWN LIGHT*LIGHT!RIGHT DOWN LIGHT+LIGHT",
   "qLIGHT AND DOWN HORIZONTAL HEAVY!HORIZONTAL HEAVY!LEFT DOWN HEAVY*HEAVY!RIGHT DOWN HEAVY+HEAVY",
   "qSINGLE AND HORIZONTAL DOUBLE#LEFT DOUBLE#RIGHT DOUBLEnVERTICAL DOUBLE AND HORIZONTAL SINGLE",
   ",LEFT SINGLE,RIGHT SINGLEwHEAVY AND HORIZONTAL LIGHT+LEFT LIGHT+RIGHT LIGHT",
   "wLIGHT AND HORIZONTAL HEAVY+LEFT HEAVY+RIGHT HEAVYwSINGLE AND HORIZONTAL DOUBLE,LEFT DOUBLE",
   ",RIGHT DOUBLEdING GLOVEcYdS SYMBOLbPHbRAHMI DANDAiIGIT EIGHTnFIVEoOURnNINEnONEnSEVENoIXnTHREE",
   "oWOnZEROiOUBLE DANDAhLETTER ApApIpUoBApHAoCApHAoDApDAqHApHAoEoGApHAoHAoIpIoJApHAoKApHAoLApLA",
   "oMAoNApGApNApYAoOpLD TAMIL LLA!LAyNNNAyRRAySHORT E&OoPApHAoRAoSApHApSAoTApHApTAqHAoUpUoVA",
   "pOCALIC LxLwRxRoYAhNUMBER EIGHTtYoFIFTYqVEpORTYqURoJOINERoNINEsTYoONEr HUNDREDsTHOUSANDoSEVEN",
   "tTYpIXrTYoTENpHIRTYqREEpWENTYqOhPUNCTUATION CRESCENT BARtDOTvUBLE DOTtLINEuOTUShSIGN ANUSVARA",
   "mCANDRABINDUmJIHVAMULIYAmOLD TAMIL VIRAMAmUPADHMANIYAmVISARGAhVIRAMAiOWEL SIGN AAtItU",
   "sBHATTIPROLU AAsEsItIsOtLD TAMIL SHORT E.OsUtUsVOCALIC L#L!R#RdILLE PATTERN BLANKqDOTS-1w2x3y4",
   "z5!6#7$8#8!7#8!8z6!7#8!8z7!8z8y5z6!7#8!8z7!8z8y6z7!8z8y7z8y8x4y5z6!7#8!8z7!8z8y6z7!8z8y7z8y8x5",
   "y6z7!8z8y7z8y8x6y7z8y8x7y8x8w3x4y5z6!7#8!8z7!8z8y6z7!8z8y7z8y8x5y6z7!8z8y7z8y8x6y7z8y8x7y8x8w4",
   "x5y6z7!8z8y7z8y8x6y7z8y8x7y8x8w5x6y7z8y8x7y8x8w6x7y8x8w7x8w8v2w3x4y5z6!7#8!8z7!8z8y6z7!8z8y7z8",
   "y8x5y6z7!8z8y7z8y8x6y7z8y8x7y8x8w4x5y6z7!8z8y7z8y8x6y7z8y8x7y8x8w5x6y7z8y8x7y8x8w6x7y8x8w7x8w8",
   "v3w4x5y6z7!8z8y7z8y8x6y7z8y8x7y8x8w5x6y7z8y8x7y8x8w6x7y8x8w7x8w8v4w5x6y7z8y8x7y8x8w6x7y8x8w7x8",
   "w8v5w6x7y8x8w7x8w8v6w7x8w8v7w8v8eNcEADeK PERMITTED HEREeST-FEEDINGdVEcICKdDE WITH VEIL",
   "eGE AT NIGHTdEFCASEfScOCCOLIdKEN BARhCIRCLE WITH NORTHWEST ARROWhHEARTdOMdWN HEARTbSbUBBLE TEA",
   "gScCKETcGdINESE END OF SECTIONjLETTER AqBAqCAqDAqGAqHAqJAqKAqLAqMArPAqNArGAsKArRArYAsCAqPAqRA",
   "qSAqTAqVAqYAjPALLAWAjVOWEL SIGN AEuEuIuOuUcHID LETTER AnBAnDAnGAnHAnInKAnLAnMAnNAoGAnPAnRAnSA",
   "nTAnUnWAnYAgVOWEL SIGN IrUcILDING CONSTRUCTIONcLLETg OPERATOReHORNi WITH SOUND WAVESeSEYE",
   "cRRITOcSd STOPdT IN SILHOUETTEeS IN SILHOUETTEcTTERgFLYbYTE ORDER MARK",
   "cZANTINE MUSICAL SYMBOL AGOGI ARGI.OTERI*GORGI:OTERI*MESI,TRIA*POLI ARGI;GORGI!NATRICHISMA",
   "#TIKENOKYLISMA,MA!PESO EKFONITIKON+XO NEO#LI#ODERMA ARCHAION.NEO$STROFOI SYNDESMOS NEO",
   ";TELOUS ICHIMATOS.S: DIPLI;NEO$THEMA!RGON%SYNTHETON#KTIKO DI,GA,KE,NI,PA,VOU,ZOzCHAMILI*ON",
   "#OREVMA ARCHAION.NEO#ROA KLITON*SPATHI*ZYGOSzDASEIA!IARGON$STOLI APLI MEGALI?IKRI.DIPLI",
   ".THESEOS#ESIS APLI DYO DODEKATA+DIGRAMMOS EX DODEKATA+MONOGRAMMOS TESSERA DODEKATA",
   "+TETARTIMORION,RIGRAMMOS OKTO DODEKATA:TIMORION#FTOGGOS OU#GORGON, PARESTIGMENON ARISTERA ANO",
   ") ARISTERA KATO) DEXIA$RAMMA GG#PLI& ARCHAION!YOzEKSTREPTON!LAFRON!NARXIS KAI FTHORA VOU",
   "#DOFONON!PEGERMA!TERON ARGOSYNTHETON+PARAKALESMA!XO EKFONITIKONzFANEROSIS DIFONIAS:MONOFONIAS",
   ":TETRAFONIAS!HTORA SKLIRON CHROMA VASIS!THORA ARCHAION? DEYTEROU ICHOU+DIATONIKI DI^KE^NANA",
   "_I ANO~KATO^PA^ZO+ENARMONIOS ANTIFONIA+I YFESIS TETARTIMORION+MALAKON CHROMA DIFONIAS",
   ")MONOFONIAS+NAOS ICHOS,ENANO+SKLIRON CHROMA SYNAFI)VASIS?DIATONON DIzGENIKI DIESIS+YFESIS",
   "!ORGON ARCHAION+NEO ANO;KATO+PARESTIGMENON ARISTERA(DEXIA&SYNTHETON$THMIKON N APLOUN=DIPLOUN",
   "!RONTHISMATAzICHADIN!MIDIARGON$FONON%THORA,ON!SAKIA TELOUS ICHIMATOS#ON ARCHAION&NEO",
   "zKATAVA TROMIKON*SMA$HISTI!ENTIMA ARCHAION,NEO ANO<KATO<MESO+TA. ARCHAION:NEO ANO>KATO>MESO",
   "!LASMA* ANO+KATO!ONTEVMA, ALLO#RONIS#UFISMA!RATIMA ALLO.RCHAION,NEO+TA*OKOUFISMA+YPORROON",
   "#EMASTI!YLISMAzLEIMMA DYO CHRONON+ENOS CHRONOU+IMISEOS CHRONOU+TESSARON CHRONON,RION CHRONON",
   "#MOI!YGISMAzMARTYRIA ALLI DEYTEROS ICHOS>PROTOS ICHOS.DEYTEROS ICHOS.LEGETOS ICHOS",
   ".PLAGIOS ICHOS^TETARTOS ICHOS:ROTOS ICHOS>VARYS ICHOS.TETARTOS ICHOS_LEGETOS ICHOS:RIFONIAS",
   "<TOS ICHOS.VARYS ICHOS!IKRON ISONzNANAzOLIGON ARCHAION+NEO!MALON!XEIA DIPLI*EKFONITIKON*NEO",
   "&I ARCHAION!YRANISMA ARCHAION:NEOzPARAKALESMA ARCHAION<NEO&LITIKI; ARCHAION<NEO$ICHON!ELASTON",
   ", NEO#RISPOMENI#TASMA&TI*OKOUFISMA!IASMA ARCHAION+NEO!SIFISTOLYGISMA,N. NEO,PARAKALESMA",
   ",SYNAGMA$LI%ONzRAPISMA!EVMAzSAXIMATA!EISMA* NEO!IMANSIS ARSEOS? DISIMOU@TETRASIMOU^RISIMOU",
   ".THESEOS@ DISIMOU^TETRASIMOU_RISIMOU!TAVROS+ APODEXIA#IGMA#RAGGISMATA!YNAGMA ARCHAION",
   ",META STAVROU,NEO$EVMA#RMA&TIKIzTELEIA#SSERA#TRAPLI!HEMA& APLOUN&TISMOS ESO=XO$S KAI APOTHES",
   "#ITA!INAGMA!RIA$GORGON$PLI#OMIKOLYGISMA+N ALLO:RCHAION.NEO+PARAKALESMA,SIFISTON+SYNAGMA",
   "zVAREIA DIPLI+EKFONITIKON+NEO*I ARCHAION#THYzXIRON KLASMAzYFEN ANO&KATO$SIS APLI DYO DODEKATA",
   "+DIGRAMMOS EX DODEKATA+MONOGRAMMOS TESSERA DODEKATA+TRIGRAMMOS OKTO DODEKATA:TIMORION!POKRISIS",
   ". DIPLI$RROI#SILIaCACTUScDA UNAdUCEUScLENDARdL ME HANDcMERAg WITH FLASHdPINGcN",
   "dADIAN SYLLABICS AuAvIvYuIvVILIK BuNuTHAPASCAN M&SuYtBEAVER DENE L*RuIBLE-CREE YuLACKFOOT A%E",
   "%I%KA&E&I&O%NA&E&I&O%O%S%W&A&E&I&OtCuAvAwIvRRIER CHA%E&E%I%O%U#DEE%NE GEE&TAL S$I$LA%E&E%I%O%U",
   "$ZA%E&E%I%O%U#EE#GA%A$E%E$HA%E&E%I%O%U$I$O$U$WA%U#H$EE$I$WA%E&E%I%O%U#I$NITIAL Z#JA$E%E$I$JA%E",
   "&E%I%O%U$O$U$WA#KHA%E&E%I%O%U$K%A%E&E%I%O%U#LA$E%E$HA%E&E%I%O%U$I$O$U#MA$E%E$I$O$U#NA$E%E$G$I",
   "$O$U#P$A$E%E$I$O$U#RA$E%E$I$O$U#SA$E%E$H%A%E&E%I%O%U$I$O$U#THA%E&E%I%O%U$LA%E&E%HA&E*E&I&O&U%I",
   "%O%U$SA%E&E%I%O%U$TA%E&E%I%O%SA&E*E&I&O&U%U#WA$E%E$I$O$U#YA$E%E$I$O$U#Z$A$E%E$I$O$UuEuHI SIGN",
   "uIvIuOvOuWAwAvEvIwIvOwOtEuASTERN WuNtFuAvAwIuEuIvIvNAL ACUTEzBOTTOM HALF RINGzDOUBLE ACUTE",
   "+SHORT VERTICAL STROKES#WN TACKzGRAVEzMIDDLE DOTzPLUSzRAISED DOT!IGHT HALF RING#NG",
   "zSHORT HORIZONTAL STROKE!MALL RINGzTOP HALF RINGuOvOuULL STOPuWAAtGLOTTAL STOPtHKuYPHENtIuIuN",
   "tKuAvAwIvYuEuIvIuOvOuWvAwAwYvEvIwIvOwOtLuAvAwIvYuEuHvAwAvIwIvOwOuIvIuOvOuWAwAvEvIwIvOwOtMuAvA",
   "wIvYuEvDIAL L!RuHuIvIuOvOwSE-CREE SKuWAwAvEvIwIvOwOtNu-CREE THE$I%IuAvAwIvSKAPI CWAA#KWAA#MWAA",
   "#NWAA#S-W$CWA$KW&A$PWA$TWA$WAA#TWAA#WAA$OO#YWAAvTTILIK HA&A%I&I%O&O$SHRA+A*I+I*O+OvYuEuGvAwAxI",
   "wIvIwIvOwOuHuIvIuNGwAxAwIxIwOxOuOvOvYuUNAVIK H$A%A$E$I%I$O%OyUT HuWAwAvEvIwIvOwOtOuJIBWAY C#K",
   "#M#N$WI&I%O&O#P#S$H#TuNuOuYtPuAvAwIvYuEuIvIuOvOvYuWAwAvEvIwIvOwOwYtQuAvAwIvIuIvIuOvOtR",
   "u-CREE RE#WEuAvAwIvYuEuIvIuOvOuWAwAvEEvIwIvOwOtSuAvAwIvYwISI HA#E#I#O$O!JI#U$U!M!SHA$E$I$O%O",
   "$WE!TH!YIuEuHvAwAwYvEvIwIvOwOwYvWAxAwEwIxIwOxOxYuIvIuOvOvUTH-SLAVEY KAH,EH,IH,OHvYuPAvEvIvOuW",
   "vAwAvEvIwIvOwOtTuAvAwIvYuEuHv-CREE TH%A&A%E%I&I%O&OvAwAvEvIwIvOwOvWAxAwEuIvIuLHAwEwIwOxOwWEuO",
   "vOuTAvEvHwAxAwEwIwOxOwWEvIvOuWAwAvEvIwIvOwOuYAvEvIvOtWAvAvYuEvST-CREE CWA+A*E*I+I*O+O%FWAA%KWA",
   "+A*E*I+I*O+O%L&A*A&E&O*O&WA+A*E*I+I*O+O%M&WA+A*E*I+I*O+O%NWA+A*E%P&WA+A*E*I+I*O+O%R&A&E&I&O",
   "&WAA%SHWA,A+E+I,I+O,O&WA+A*E*I+I*O+O%THWAA&WA+A*E*I+I*O+O%WA*A&E&I*I&O*O%Y&WA+A*E*I+I*O+O",
   "xERN WuIvIuOvOwDS-CREE FINAL TH&TH+A+E+I+O+WA.A,EE,I.I,O.OtYu-CREE COO!KOO!LOO!MOO!NOO!OO!POO",
   "#WAA!SOO!TOO!W!YOOuAvAwIvYuEuIvIuOvOvYuWAwAvEvIwIvOwOdCELg CHARACTERhTAGgLATION XfRdDLEeY",
   "dNED FOODdOEcPITULUMdRICORNcR SLIDINGdD FILE BOXfINDEXk DIVIDERSdE OFeTf INSERTION POINT",
   "dIAN LETTER Ap2oBoC-18q39oDp2oEp2oGp2oIpIoKp2oLpDq2oMpBq2q3q4oNpDpGpNoOoPp2oQoRpRoSpHq2pSpTq2",
   "oTpTq2oUpUqUr2r3rUoXdONeUSEL HORSEdP STREAMEReENTRY SAWdRIAGE RETURNeOTcSTLEcTd FACE",
   "i WITH TEARS OF JOYoWRY SMILEcUCASIAN ALBANIAN CITATION MARKtLETTER ALT#OR!BET!CAR$YN#HA%T$I",
   "$OY#YAW%Y!DAT#YAN#ZAY$YAY!EB#YN!FAM!GHEYS#IM!HEYT!INYA#RB#WN!JAYN#HOX!KAR#IW!LAN#YIT!MAQ!NOWC",
   "!ON!PEN#IWR!QAR$Y!RAT!SEYK#HA%K$OY!TAS#IWR#YAY!VEYZ!XEYN!YAYD#OWD!ZARL#HA$ILdTION SIGNbCH",
   "bEDI SIGNeLLAcLTIC CROSScNT SIGNeRE LINE SYMBOLgLINE LOW LINElOVERLINEcRESbGJbHAINSeR",
   "dKMA AU MARKhDANDAiIGIT EIGHTnFIVEoOURnNINEnONEnSEVENoIXnTHREEoWOnZEROiOUBLE DANDAhLETTER AA",
   "oBAApHAAoCAApHAAoDAApDAAqHAApHAAoEoGAApHAAoHAAoIoJAApHAAoKAApHAAoLAApHAAoMAAoNAApGAApNAApYAA",
   "oPAApHAAoRAAoSAAoTAApHAApTAAqHAAoUoVAAoWAAoYAApYAAhMAAYYAAhO MARKhQUESTION MARKhSECTION MARK",
   "iIGN ANUSVARAmCANDRABINDUmVISARGAhVIRAMAiOWEL SIGN AtAtItUsEtIsItIsOtIsUtU",
   "dM CONSONANT SIGN FINAL H!M!NGuLAuRAuWAuYAfDIGIT EIGHTlFIVEmOURlNINElONElSEVENmIXlTHREEmWO",
   "lZEROfLETTER AnImBAnBAnHAmCHAoHAmDAnDAnHAmEmFINAL CHsGsKsLsNtGsPsRsSSsTsYmGAnHAmHAmImJAnHAmKA",
   "nHAmLAmMAnUEmNAnGAoUEnHAoJAoUEnUEmOmPAnHAnPAmRAmSAnSAmTAnHAmUmVAmYAfPUNCTUATION DANDA",
   "sOUBLE DANDArSPIRALrTRIPLE DANDAfVOWEL SIGN AArIrUqEIqIrIqOrEqUrEdRACTER TABULATIONu SET",
   "vWITH JUSTIFICATIONlIEeT WITH DOWNWARDS TRENDlUPWARDS TRENDy AND YEN SIGNcECK MARKfER BOARD",
   "n FILLdERING MEGAPHONEeSE WEDGEdQUERED FLAGdROKEE LETTER AqDArErIrLArOrUrVqEqGArErIrOrUrVqHArE",
   "rIrNArOrUrVqIqKAqLArErIrOrUrVqMArErIrOrUrVqNAsHrErIrOrUrVqOqQUAsEsIsOsUsVqSrArErIrOrUrVqTArErI",
   "rLAsEsIsOsUsVrSAsEsIsOsUsVqUqVqWArErIrOrUrVqYArErIrOrUrVjSMALL LETTER AwDAxExIxLAxOxUxVwEwGAxE",
   "xIxOxUxVwHAxExIxNAxOxUxVwIwKAwLAxExIxOxUxVwMAxExIxOxUxVwNAyHxExIxOxUxVwOwQUAyEyIyOyUyVwSxAxExI",
   "xOxUxVwTAxExIxLAyEyIyOyUyVxSAyEyIyOyUyVwUwVwWAxExIxOxUxVwYAxExIxOxUxVeRIESfY BLOSSOMdSTNUT",
   "cI RHOdCKENdLDfREN CROSSINGdPMUNKdRONcOCOLATE BARdPSTICKSdRASMIAN LETTER ALEPHtYINsBETH",
   "sCURLED WAWsDALETHsGIMELsHEuTHsKAPHsLAMEDHsMEMsNUNsPEsRESHsSAMEKHtHINtMALL ALEPHsTAWsWAWsYODH",
   "sZAYINlNUMBER FOURsONEv HUNDREDsTENtHREEtWENTYuOcRISTMAS TREEcURCHbINEMA",
   "cRCLE DIVIDED BY HORIZONTAL BAR AND TOP HALF DIVIDED BY VERTICAL BAR",
   "hWITH ALL BUT UPPER LEFT QUADRANT BLACKmHORIZONTAL BARmLEFT HALF BLACKnOWER HALF BLACK",
   "mRIGHT HALF BLACKmSMALL CIRCLE TO THE RIGHTnUPERIMPOSED XmTWO HORIZONTAL STROKES TO THE RIGHT",
   "mUPPER HALF BLACKsRIGHT QUADRANT BLACKmVERTICAL FILLgD ANTICLOCKWISE ARROW",
   "v-ROTATED DIVISION SIGNjSTERISK OPERATORiBOLD XjULLETiC WITH OVERLAID BACKSLASHjCjD",
   "jROSS FORMEEu WITH FOUR DOTS!TWO DOTSoPOMMEEnING LANESiDASHjIGIT EIGHToFIVEpOURoNINEoONEoSEVEN",
   "pIXoTHREEpWOoZEROkVISION SIGNsLASHjOLLAR SIGN WITH OVERLAID BACKSLASHkT OPERATORiEQUALS",
   "iGREATER-THANiHANGUL CHIEUCHw AqIEUCu ApHIEUHu ApIEUNGu AvUpKHIEUKHw AqIYEOKv ApMIEUMu ApNIEUN",
   "u ApPHIEUPHw AqIEUPu ApRIEULu ApSIOSt ApTHIEUTHw AqIKEUTv AjEAVY WHITE RIGHTWARDS ARROW",
   "jORIZONTAL BAR WITH NOTCHjUMAN FIGUREiIDEOGRAPH ACCEPTtDVANTAGEtLLIANCEtTTENTIONsCENTRE",
   "tONGRATULATIONuPYuRRECTsEARTHtIGHTtNTERPRISEtXCELLENTsFEMALEtINANCIALuREuVEtOURsHAVEtIGHsITEM",
   "sKINDERGARTENtOTOsLABORtEFTtOWsMALEtEDICINEuTALtOONsNAMEtIGHTuNEsONEsPRINTsQUESTIONsRELIGION",
   "uSOURCEvTtIGHTsSCHOOLtECRETuVENtIXtOCIETYtPECIALtTOCKuUDYtUITABLEuNuPERVISEsTENtHREEtWOsWATER",
   "tOODjNFORMATION SOURCEjTALIC LATIN CAPITAL LETTER C;RiKATAKANA ArErHAsEsIsOsUrIrKAsEsIsOsUrMA",
   "sEsIsOsUrNAsEsIsOsUrOrRAsEsIsOsUrSAsEsIsOsUrTAsEsIsOsUrUrWAsEsIsOrYAsOsU",
   "jOREAN CHARACTER CHAMKOzJUEUIiLATIN CAPITAL LETTER A%B%C%D%E%F%G%H%I%J%K%L%M%N%O%P%Q%R%S%T%U%V",
   "%W%X%Y%ZoSMALL LETTER A#B#C#D#E#F#G#H#I#J#K#L#M#N#O#P#Q#R#S#T#U#V#W#X#Y#ZjESS-THANiMINUS",
   "jULTIPLICATION SIGN WITH CIRCUMFLEX ACCENTiNUMBER EIGHTEENuY ON BLACK SQUAREqLEVENpFIFTEENtY",
   "u ON BLACK SQUAREqORTYu EIGHTvFIVEwOURvNINEvON BLACK SQUARExEvSEVENwIXvTHREEwWOrURTEEN",
   "pNINETEENpSEVENTEENvY ON BLACK SQUAREqIXTEENtY ON BLACK SQUAREpTENs ON BLACK SQUAREqHIRTEENuY",
   "v EIGHTwFIVExOURwNINEwON BLACK SQUAREyEwSEVENxIXwTHREExWOqWELVEsNTYv EIGHTwFIVExOURwNINE",
   "wON BLACK SQUAREyEwSEVENxIXwTHREExWOiOPEN CENTRE EIGHT POINTED STARiPARALLELjERPENDICULARjLUS",
   "jOSTAL MARKiREVERSE SOLIDUSjING OPERATORiSQUAREiTIMESjRIANGLEq DOWNiVERTICAL BARiWHITE BULLET",
   "oSTARjZiXiZERO WITH SLASHeULATION FUNCTIONfMFLEX ACCENTfS TENTcTYSCAPEj AT DUSK",
   "bJK COMPATIBILITY IDEOGRAPH-2F800+1+2+3+4+5+6+7+8+9+A+B+C+D+E+F*10+1+2+3+4+5+6+7+8+9+A+B+C+D+E",
   "+F*20+1+2+3+4+5+6+7+8+9+A+B+C+D+E+F*30+1+2+3+4+5+6+7+8+9+A+B+C+D+E+F*40+1+2+3+4+5+6+7+8+9+A+B",
   "+C+D+E+F*50+1+2+3+4+5+6+7+8+9+A+B+C+D+E+F*60+1+2+3+4+5+6+7+8+9+A+B+C+D+E+F*70+1+2+3+4+5+6+7+8",
   "+9+A+B+C+D+E+F*80+1+2+3+4+5+6+7+8+9+A+B+C+D+E+F*90+1+2+3+4+5+6+7+8+9+A+B+C+D+E+F*A0+1+2+3+4+5",
   "+6+7+8+9+A+B+C+D+E+F*B0+1+2+3+4+5+6+7+8+9+A+B+C+D+E+F*C0+1+2+3+4+5+6+7+8+9+A+B+C+D+E+F*D0+1+2",
   "+3+4+5+6+7+8+9+A+B+C+D+E+F*E0+1+2+3+4+5+6+7+8+9+A+B+C+D+E+F*F0+1+2+3+4+5+6+7+8+9+A+B+C+D+E+F",
   "&900+1+2+3+4+5+6+7+8+9+A+B+C+D+E+F*10+1+2+3+4+5+6+7+8+9+A+B+C+D+E+F*20+1+2+3+4+5+6+7+8+9+A+B+C",
   "+D+E+F*30+1+2+3+4+5+6+7+8+9+A+B+C+D+E+F*40+1+2+3+4+5+6+7+8+9+A+B+C+D+E+F*50+1+2+3+4+5+6+7+8+9",
   "+A+B+C+D+E+F*60+1+2+3+4+5+6+7+8+9+A+B+C+D+E+F*70+1+2+3+4+5+6+7+8+9+A+B+C+D+E+F*80+1+2+3+4+5+6",
   "+7+8+9+A+B+C+D+E+F*90+1+2+3+4+5+6+7+8+9+A+B+C+D+E+F*A0+1+2+3+4+5+6+7+8+9+A+B+C+D+E+F*B0+1+2+3",
   "+4+5+6+7+8+9+A+B+C+D+E+F*C0+1+2+3+4+5+6+7+8+9+A+B+C+D+E+F*D0+1+2+3+4+5+6+7+8+9+A+B+C+D+E+F*E0",
   "+1+2+3+4+5+6+7+8+9+A+B+C+D+E+F*F0+1+2+3+4+5+6+7+8+9+A+B+C+D+E+F&A00+1+2+3+4+5+6+7+8+9+A+B+C+D",
   "+E+F*10+1+2+3+4+5+6+7+8+9+A+B+C+D$F900*1*2*3*4*5*6*7*8*9*A*B*C*D*E*F&10*1*2*3*4*5*6*7*8*9*A*B",
   "*C*D*E*F&20*1*2*3*4*5*6*7*8*9*A*B*C*D*E*F&30*1*2*3*4*5*6*7*8*9*A*B*C*D*E*F&40*1*2*3*4*5*6*7*8",
   "*9*A*B*C*D*E*F&50*1*2*3*4*5*6*7*8*9*A*B*C*D*E*F&60*1*2*3*4*5*6*7*8*9*A*B*C*D*E*F&70*1*2*3*4*5",
   "*6*7*8*9*A*B*C*D*E*F&80*1*2*3*4*5*6*7*8*9*A*B*C*D*E*F&90*1*2*3*4*5*6*7*8*9*A*B*C*D*E*F&A0*1*2",
   "*3*4*5*6*7*8*9*A*B*C*D*E*F&B0*1*2*3*4*5*6*7*8*9*A*B*C*D*E*F&C0*1*2*3*4*5*6*7*8*9*A*B*C*D*E*F",
   "&D0*1*2*3*4*5*6*7*8*9*A*B*C*D*E*F&E0*1*2*3*4*5*6*7*8*9*A*B*C*D*E*F&F0*1*2*3*4*5*6*7*8*9*A*B*C",
   "*D*E*F%A00*1*2*3*4*5*6*7*8*9*A*B*C*D*E*F&10*1*2*3*4*5*6*7*8*9*A*B*C*D*E*F&20*1*2*3*4*5*6*7*8*9",
   "*A*B*C*D*E*F&30*1*2*3*4*5*6*7*8*9*A*B*C*D*E*F&40*1*2*3*4*5*6*7*8*9*A*B*C*D*E*F&50*1*2*3*4*5*6",
   "*7*8*9*A*B*C*D*E*F&60*1*2*3*4*5*6*7*8*9*A*B*C*D&70*1*2*3*4*5*6*7*8*9*A*B*C*D*E*F&80*1*2*3*4*5",
   "*6*7*8*9*A*B*C*D*E*F&90*1*2*3*4*5*6*7*8*9*A*B*C*D*E*F&A0*1*2*3*4*5*6*7*8*9*A*B*C*D*E*F&B0*1*2",
   "*3*4*5*6*7*8*9*A*B*C*D*E*F&C0*1*2*3*4*5*6*7*8*9*A*B*C*D*E*F&D0*1*2*3*4*5*6*7*8*9",
   "eRADICAL BAMBOOnLUEnOLT OF CLOTHoNEoXnRUSH ONEsTWOmC-SIMPLIFIED BIRDzCARTzDRAGONzEAT!VENzFISH",
   "!LY!ROGzGATE!OLDzHORSEzLEAF!ONGzSALT!EE!HELL!ILK!PEECHzTANNED LEATHER!OOTH!URTLEzWINDnHOKEnITY",
   "oVILIANnLIFFoOTHESnOWmDEATHnIVINATIONnOGmEAT ONEqTHREErWOnWEnYEmFIREnOOTmGHOSTnRASS ONEsTHREE",
   "tWOmHANDnEADpRT ONEsTWOnORNmJ-SIMPLIFIED DRAGONzEVENzTOOTH!URTLEnADEmKNIFE ONEsTWOmLAME FOUR",
   "rONErTHREEsWOnONG ONErTWOmMEAToSHnOONoRTARoTHERoUND ONEsTWOmNET FOURqONEqTHREErWOmOLDmPAW ONE",
   "qTWOnERSONmRAINoMoPnEPEATmSEALoCOND ONEtTHREEuWOnHEEPnILKoMPLIFIED HALF TREE TRUNKyORNxWALK",
   "yHEATxYELLOWnMALL ONEsTWOnNAKEoOUT ONEsTWOnPIRIT ONEtTWOnUNmTABLEnHREADnIGERnURTLEmWALK ONE",
   "rTWOoTER ONEsTWOnEST ONErTWOeSTROKE BXGlDlHmGmPnWGmXWGmZnGnTnWoGnZoPoZpGlNlPmDmGmZlQlSmGmPmTmW",
   "nGnZmZnWGnZlTmNlWGlXGbLAMSHELL MOBILE PHONEdPPER BOARDfING HANDS SIGNdSSICAL BUILDING",
   "cEAR SCREEN SYMBOLcINKING BEER MUGSjGLASSESdPBOARDcOCK FACE EIGHT OCLOCKq-THIRTYmLEVEN OCLOCK",
   "r-THIRTYlFIVE OCLOCKp-THIRTYmOUR OCLOCKp-THIRTYlNINE OCLOCKp-THIRTYlONE OCLOCKo-THIRTY",
   "lSEVEN OCLOCKq-THIRTYmIX OCLOCKo-THIRTYlTEN OCLOCKo-THIRTYmHREE OCLOCKq-THIRTYmWELVE OCLOCK",
   "r-THIRTYnO OCLOCKo-THIRTYfWISE CLOSED CIRCLE ARROWlONTOUR INTEGRAL",
   "kDOWNWARDS AND UPWARDS OPEN CIRCLE ARROWSkGAPPED CIRCLE ARROWkINTEGRALkOPEN CIRCLE ARROW",
   "kRIGHT AND LEFT SEMICIRCLE ARROWSpWARDS AND LEFTWARDS OPEN CIRCLE ARROWS",
   ")ARROWS WITH CIRCLED ONE OVERLAYkTOP SEMICIRCLE ARROWlRIANGLE-HEADED OPEN CIRCLE ARROWdSE UP",
   "fD BOOKhINTERSECTION WITH SERIFShLOCK WITH KEYhMAILBOX WITH LOWERED FLAGuRAISED FLAGhSUBSET",
   "n OR EQUAL TOjPERSETp OR EQUAL TOhUMBRELLAiNION WITH SERIFSy AND SMASH PRODUCTdUD",
   "f WITH LIGHTNINGlRAINlSNOWlTORNADOdWN FACEbOATcCKROACHeTAIL GLASSdONUTcFFINcINcLLISION SYMBOL",
   "dONf EQUALSgSIGNcMBINING ACUTE ACCENTw BELOWqTONE MARKp-GRAVE-ACUTEqMACRON",
   "lLMOST EQUAL TO ABOVE!BELOWlNNUITY SYMBOLmTICLOCKWISE ARROW ABOVEyRING OVERLAYlSTERISK ABOVE",
   "tBELOWkBINDU BELOWlREVEp BELOWp-MACRONmIDGE ABOVErBELOWkCANDRABINDUmRONp BELOWlEDILLA",
   "lIRCUMFLEX ACCENT# BELOWlLOCKWISE ARROW ABOVEuRING OVERLAYlOMMA ABOVEv RIGHTqBELOW",
   "mNJOINING MACRON# BELOWlYRILLIC DASIA PNEUMATAtHUNDRED MILLIONS SIGN#THOUSANDS SIGNtKAVYKA",
   "tLETTER A!BE#IG YUS!CHE!DE#JERV!EF#L#M#N#R#S$-TE!FITA!GHE!HA$RD SIGN!I#E#OTIFIED A:BIG YUS:E",
   "!KA!LITTLE YUS!MONOGRAPH UK!O#MEGA!PE!SHA$CHA#OFT SIGN!TE#SE!U#KRAINIAN IE!VE!YAT#ERU#I#U!ZE",
   "#HEtMILLIONS SIGNtPALATALIZATIONvYEROKuOKRYTIEuSILI PNEUMATAtTEN MILLIONS SIGN",
   "uHOUSAND MILLIONS SIGNuITLOy LEFT HALFzRIGHT HALFtVZMETkDELETION MARKmVANAGARI DIGIT EIGHT",
   "#FIVE$OUR#NINE#ONE#SEVEN$IX#THREE$WO#ZEROvLETTER A$KA$NA$PA$RA$U$VIvSIGN AVAGRAHAlIAERESIS",
   "t BELOWt-RINGlOT ABOVEt LEFTuRIGHToBELOWt LEFTnTED ACUTE ACCENTrGRAVE ACCENTmUBLE ACUTE ACCENT",
   "rBREVEw BELOWrCIRCUMFLEX ABOVErGRAVE ACCENTrINVERTED BREVE* BELOWrLOW LINErMACRONx BELOW",
   "rOPEN MARK BELOWsVERLINErPARENTHESES ABOVEsLUS SIGN ABOVE#BELOWrRIGHTWARDS ARROW BELOW",
   "tNG BELOWrTILDEw LEFT HALFxRIGHT HALFrVERTICAL LINE ABOVE*BELOW!STROKE OVERLAY",
   "qD CIRCUMFLEX ACCENTmWN TACK BELOWoWARDS ARROWkENCLOSING CIRCLE! BACKSLASHuDIAMONDuKEYCAP",
   "uSCREENvQUAREuUPWARD POINTING TRIANGLElQUALS SIGN BELOWkFERMATAlOUR DOTS ABOVE",
   "kGLAGOLITIC LETTER AZU$BIG YUS%UKY$CHRIVI$DJERVI%OBRO$FITA%RITU$GLAGOLI$HERU$I%NITIAL IZHE",
   "%OTATED BIG YUS;SMALL YUS%ZHE$KAKO$LJUDIJE$MYSLITE$NASHI$ONU$POKOJI$RITSI$SHA&TA%LOVO%MALL YUS",
   "$TSI%VRIDO$UKU$VEDE$YATI%ERI*U&STU%O%U$ZEMLJA%HIVETElRANTHA DIGIT FIVEzOURyONEySIXyTHREEzWO",
   "yZEROsLETTER AzKAzNAzPAzVInPHEME JOINERnVE ACCENTw BELOWqTONE MARKp-ACUTE-GRAVEqMACRON",
   "mEEK DIALYTIKA TONOSqKORONISqMUSICAL PENTASEMEyTETRASEMEzRISEMEqPERISPOMENIqYPOGEGRAMMENI",
   "kHOMOTHETIC ABOVEmOK ABOVEmRNkINFINITYmVERTED BREVEy BELOWvIDGE BELOWtDOUBLE ARCH ABOVE*BELOW",
   "lS BELOWkKATAKANA-HIRAGANA SEMI-VOICED SOUND MARK$VOICED SOUND MARKmVYKA ABOVE LEFTxRIGHT",
   "kLATIN LETTER SMALL CAPITAL G<L<M<N<RqSMALL LETTER A& WITH DIAERESIS&E&LPHA&O&V%B&ETA%C",
   "& CEDILLA%D%E&SH&TH%F&LATTENED OPEN A ABOVE%G%H%I&NSULAR D<G<R<T%K%L& WITH DOUBLE MIDDLE TILDE",
   "&ONG S%M%N%O& WITH DIAERESIS;LIGHT CENTRALIZATION STROKE%P%R& BELOW*ROTUNDA%S&CHWA%T",
   "&URNED W BELOW%U& WITH DIAERESIS;LIGHT CENTRALIZATION STROKE%V%W& BELOW%X%ZlEFT ANGLE ABOVE",
   "vBELOWqRROW ABOVEvBELOWuHEAD ABOVEzBELOWpHALF RING ABOVEzBELOWrRPOON ABOVE",
   "pPARENTHESIS ABOVE LEFT#BELOW LEFTpRIGHT ARROW ABOVE#BELOWpTACK BELOWoWARDS ARROW OVERLAY",
   "uHARPOON WITH BARB DOWNWARDSlIGATURE LEFT HALF$ BELOWtRIGHT HALF% BELOW",
   "nHT CENTRALIZATION STROKE BELOWlONG DOUBLE SOLIDUS OVERLAYpSOLIDUS OVERLAYqTROKE OVERLAY",
   "pVERTICAL LINE OVERLAYmW LINEkMACRONq BELOWrLEFT HALF! BELOWrRIGHT HALF# BELOWq-ACUTErBREVE",
   "rGRAVElINUS SIGN BELOWkNOT TILDE ABOVElUMBER SIGN ABOVEkOGONEKq ABOVElLD PERMIC LETTER AN$DOI",
   "$NENOE$SII$ZATAlPEN MARK BELOWlVERLINEkPALATALIZED HOOK BELOWmRENTHESES ABOVEwBELOWwOVERLAY",
   "lLUS SIGN ABOVEuBELOWkRETROFLEX HOOK BELOWmVERSE SOLIDUS OVERLAYrD COMMA ABOVE",
   "lIGHT ARROW ABOVEwBELOWvHEAD ABOVE#ND DOWN ARROWHEAD BELOW&UP ARROWHEAD BELOW!BELOW",
   "qHALF RING ABOVE!BELOWsRPOON ABOVEqPARENTHESIS ABOVE RIGHT$BELOW RIGHTqTACK BELOW",
   "pWARDS HARPOON WITH BARB DOWNWARDSmNG ABOVEpBELOWpOVERLAYkSEAGULL BELOWlHORT SOLIDUS OVERLAY",
   "rTROKE OVERLAYqVERTICAL LINE OVERLAYlNAKE BELOWlQUARE BELOWsRACKETS ABOVE",
   "lTRONG CENTRALIZATION STROKE BELOWlUSPENSION MARKkTHREE DOTS ABOVElILDEp BELOWqLEFT HALF BELOW",
   "qOVERLAYqRIGHT HALF BELOWlRIPLE ACUTE ACCENTrDOTrUNDERDOTlURNED COMMA ABOVEkUP TACK ABOVE",
   "sBELOWmWARDS ARROW BELOWlR ABOVElS ABOVEkVERTICAL LINE ABOVEyBELOWtTILDEkWIDE BRIDGE ABOVE",
   "pINVERTED BRIDGE BELOWmGGLY LINE BELOWkX ABOVEmBELOWl-X BELOWkZIGZAG ABOVErBELOWdETdMA",
   "eERCIAL ATlMINUS SIGNdPASSeLEMENTeOSITION SYMBOLeRESSIONcNFETTI BALLeOUNDED FACEeUSED FACE",
   "dGRUENT WITH DOT ABOVEdICAL TAPERdJUNCTIONdSTRUCTION SIGNnWORKERdTAINS AS MEMBER",
   "mNORMAL SUBGROUP# OR EQUAL TOjWITH LONG HORIZONTAL STROKEoOVERBAR",
   "oVERTICAL BAR AT END OF HORIZONTAL STROKEeINUOUS UNDERLINE SYMBOLeOUR INTEGRALeROL KNOBS",
   "iSEQUENCE INTRODUCERdVENIENCE STOREcOKED RICEeIEfNGcPTIC CAPITAL LETTER AKHMIMIC KHEIxLFA",
   "wBOHAIRIC KHEIwCROSSED SHEIyYPTOGRAMMIC EIE;GANGIA;NI;SHEIwDALDAxEIxIALECT-P ALEF+HORI+KAPA+NI",
   "wEIEwFEIxIwGAMMAyNGIAwHATExORIwIAUDAwKAPAxHEIyIxSIwL-SHAPED HAxAULAwMIwNIwOxLD COPTIC AIN,DJA",
   ",ESH,GANGIA,HA:T.EI.ORI,OOU,SHEI:IMA!NUBIAN NGI.YI,SHIMA,WAUxOUwPIxSIwROwSAMPIxHEIyIMAxIMAxOU",
   "wTAUxHETHEwUAwVIDAwZATAiOMBINING NI ABOVErSPIRITUS ASPER!LENIShEPACT DIGIT EIGHTtFIVEuOURtNINE",
   "tONEtSEVENuIXtTHREEuWOnNUMBER EIGHT HUNDREDzYuFIFTYwVE HUNDREDvORTYwUR HUNDREDuNINE HUNDREDyTY",
   "uONE HUNDREDuSEVEN HUNDREDzTYvIX HUNDREDxTYuTENvHIRTYwREE HUNDREDvWENTYwO HUNDRED",
   "nTHOUSANDS MARKhFRACTION ONE HALFiULL STOPhMORPHOLOGICAL DIVIDER",
   "hOLD NUBIAN DIRECT QUESTION MARKsFULL STOPsINDIRECT QUESTION MARKsVERSE DIVIDER",
   "hSMALL LETTER AKHMIMIC KHEIvLFAuBOHAIRIC KHEIuCROSSED SHEIwYPTOGRAMMIC EIE.GANGIA.NI.SHEI",
   "uDALDAvEIvIALECT-P ALEF&HORI&KAPA&NIuEIEuFEIvIuGAMMAwNGIAuHATEvORIuIAUDAuKAPAvHEIwIvSI",
   "uL-SHAPED HAvAULAuMIuNIuOvLD COPTIC AIN*DJA*ESH*GANGIA*HA,T+EI+ORI*OOU*SHEI,IMAyNUBIAN NGI+YI",
   "*SHIMA*WAUvOUuPIvSIuROuSAMPIvHEIwIMAvIMAvOUuTAUvHETHEuUAuVIDAuZATAiYMBOL KAIpHI ROoMI ROoPI RO",
   "oSHIMA SIMApTAUROSoTAU ROdYLEFT SYMBOLeRIGHT SIGNcRALdNISH VERSE DIVIDERdRESPONDS TO",
   "cUCH AND LAMPdNTERBOREhSINKfING ROD TENS DIGIT EIGHTyFIVEzOURyNINEyONEySEVENzIXyTHREEzWO",
   "nUNIT DIGIT EIGHTyFIVEzOURyNINEyONEySEVENzIXyTHREEzWOdPLE WITH HEARTcWd FACEbRcABcEDIT CARD",
   "dSCENT MOONcICKETh BAT AND BALLcOCODILEdISSANTdSS MARKgOF JERUSALEMjLORRAINE",
   "gPATTY WITH LEFT CROSSBARrRIGHT CROSSBARhOMMEEm WITH HALF-CIRCLE BELOWfED FLAGS",
   "iNEGATIVE SQUARED LATIN CAPITAL LETTER PiSWORDSfING LANESdWNcUTCHdZEIRO SIGNcYING CAT FACE",
   "hFACEdSTAL BALLbSIbUBE ROOTcCUMBERcNEIFORM NUMERIC SIGN EIGHT ASH%DISH%GESH2%SHAR2%U",
   "& VARIANT FORM%VARIANT FORM USSU(3yLAMITE FIFTY+ORTY*ONE THIRD*TWO THIRDSxFIVE ASH* TENU$BAN2",
   "+ VARIANT FORM%URU$DISH$GESH2+U$SHAR2+U%IXTHS DISH$U% VARIANT FORMyOUR ASH* TENU$BAN2",
   "+ VARIANT FORM%URU$DISH$GESH2+U$SHAR2+U$U% VARIANT FORM$VARIANT FORM LIMMU( A)B(4xNIGIDAESH",
   "%MINzNE ASH$DISH$GESH2$SHAR2$U% VARIANT FORM$VARIANT FORM ILIMMU) A)3)4",
   "xOLD ASSYRIAN ONE QUARTER?SIXTHyNE BAN2$URU#EIGHTH ASH$SHE3#GESH2*U#HALF GUR#QUARTER ASH:GUR",
   "#SHARU#THIRD DISH,VARIANT FORM AxSEVEN ASH%DISH%GESH2%SHAR2%U& VARIANT FORM",
   "%VARIANT FORM IMIN A)B(3yHAR2 TIMES GAL PLUS DISH|MINyIX ASH& TENU#DISH#GESH2#SHAR2#U",
   "$ VARIANT FORM#VARIANT FORM ASH9xTHREE ASH+ TENU%BAN2&URU, VARIANT FORM%DISH%GESH2,U%SHAR2",
   ". VARIANT FORM,U. VARIANT FORM%VARIANT FORM ESH16~21yWO ASH& TENU#BAN2$URU#ESHE3#GESH2*U#SHAR2",
   "*U#THIRDS DISH.VARIANT FORM AkPUNCTUATION SIGN DIAGONAL COLON;QUADCOLON;TRICOLON",
   "#OLD ASSYRIAN WORD DIVIDER#VERTICAL COLONkSIGN Aq TIMES AxBADxGAN2 TENUxHAxIGIxLAGAR GUNUxMUSH",
   "xSAGq2qBr GUNUsTIMES ASH2yDUN3 GUNUyGAL!N2 TENUyHAyIGI GUNUzMINyLAGAByNUN# TENUySHESH!U2",
   "yU PLUS U PLUS Ur2s TIMES AzBALAGzGAN2 TENUzME PLUS ENzSHA3zTAK4qDr TIMES ESH2qKr TIMES ERIN2",
   "ySHITA PLUS GISHqLr TIMES ALyDIM2yGISHyHAyKAD3zIySHEyUSHrANrEPHqMARt TIMES KUG!SHEqNr OVER AN",
   "sPLUS NAGA OPPOSING AN PLUS NAGA$SQUAREDsTHREE TIMESrSHEqPINqRADt TIMES KURrKABqSAL2rH",
   "s KABA TENUtOVER ASH OVER ASH; CROSSING ASH OVER ASH OVER ASH",
   "$TUG2 OVER TUG2 TUG2 OVER TUG2 PAPtZIDA TENUs2sGABpBArDs TIMES DISH TENUrG3rHAR2v TIMES AB2$NI",
   "$ZArLs OVER BALsAGrRsA2qIr TIMES AyGARyIGI GUNUqUr CROSSING BUsOVER BU AB!TIMES NA2!UNrLUG",
   "u OVER BULUGrRs2pDAr TIMES TAK4rGs KISIM5 TIMES A PLUS MASH,MAR+BALAG,I+GA. PLUS MASH,I.R2,UD",
   "+HA+IR. PLUS LU+KAK+LA,U. PLUS MASH2.M+NE+PAP PLUS PAP+SI+TAK4+U2 PLUS GIR2?MASH,SHtTIMES KUR",
   "s3rMrRsA3t4qIrBrMs TIMES IGIzSHEzU U Us2t TIMES UDrNs KASKAL U GUNU DISHrSHt PLUS SHUqUr GUNU",
   "sOVER DUsSHESHIGrBs TIMES ESH2zSHEs2rGs TIMES ANSHE!SH$ AT LEFTzDIN!UNzERIN2zGA!I#R2 GUNU#SH",
   "zHA!IzIGI GUNUzKASKAL!UR#SHU2* PLUS KASKALzLAK-020#M$ TIMES KUR!UH PLUS GISHzMASH!ES!IzNIzPI",
   "zSHE!I GUNUsUDrHrNs3t GUNUy GUNUs4rR2pEq OVER E NUN OVER NUNrTIMES PAPq2",
   "r TIMES A PLUS HA PLUS DAyGARyKURyMIyPAPySALzHEyUqDINqGIRqLqNr CROSSING ENsOPPOSING ENsSQUARED",
   "sTIMES GAN2$ TENUyMEqRENrIN2u XqSH2t CROSSING ESH2qZENt SHESHIG TIMES ASH.HI.IGI GUNU.LA;L.ME",
   ";S.SUuTIMES A# PLUS LAL; TIMES LAL#N!BAD!DUN3 GUNU: GUNU!GUD!HA$ GUNU!IGI GUNU!KASKAL+ SQUARED",
   "#U3!LA$L TIMES LAL#I#U!SHE#U!U2#DpGAr GUNUr2s OVER GA2tTIMES A PLUS DA PLUS HA+HA+IGI",
   "!B2 TENU PLUS TAB!N# PLUS KAK PLUS A!SH$2% PLUS GALzBAD#HAR2#R PLUS RA!UR$ PLUS RAzDA!I#M GUNU",
   "%TIMES SHE!UB#G TIMES IGI GUNU:KASKALzEL# PLUS LA!N# TIMES GAN2 TENU!RENzGA#N2 TENU#R$ PLUS DI",
   ".NE!I#4$ PLUS A#R2 PLUS SUzHA PLUS A,LU PLUS ESH2#L$ PLUS LA!I PLUS LI!UB2zIGI GUNU",
   "!SH PLUS HU PLUS ASHzKAK#SKAL!ID$ PLUS LAL!U3 PLUS AN#SHU2 PLUS KASKALzLA#M$ TIMES KUR!UH",
   "zME PLUS EN!I!USHzNE# PLUS E2,GI!UN$ OVER NUNzPAzSAL#R!HE$ PLUS TUR#ID$M!UMzTAK4zU!D# PLUS DU",
   "zZIZ2rBAt CROSSING GABAuROTATED NINETY DEGREESrDs OVER GAD GAR OVER GARrL",
   "s GAD OVER GAD GAR OVER GARsAMrMrNs2t CROSSING GAN2uOVER GAN2uTENUrRs3rSHANqE22rSHTIN",
   "w TIMES KUR%UqIr CROSSING GIsTIMES EyUr4s CROSSING GI4tOVER GI4rDIMrGrR2t GUNUs3",
   "t TIMES A PLUS IGI!GAN2 TENU!IGI!LU PLUS IGI!PArSALsHt CROSSING GISHuTENUvIMES BAD",
   "!GISH CROSSING GISH!TAK4qUr CROSSING GUr2s GUNUtTIMES IGI GUNUzKAK$ TIMES IGI GUNUzNUN",
   "zSAL PLUS TUG2rDs OVER GUD LUGALtPLUS GISH TIMES TAK4tTIMES A PLUS KURzKURrLrMs TIMES SHErRs7",
   "sUNtSHpHAr GUNUsTENUw GUNUrLqIr TIMES ASH# OVER HI TIMES ASH#2yBADyDISHyGADyKINyNUNySHEyUqUrB2",
   "t TIMES AN!HAL!KASKAL!LISH!UDrL2rSHpIq AqBqDIMt OVER IDIM BUR&SQUAREDqGrIs DIBtGUNU",
   "tOVER IGI SHIR OVER SHIR UD OVER UDtRIqLr TIMES GAN2 TENUr2qMr CROSSING IMsOPPOSING IMsSQUARED",
   "sTIMES TAK4rINqNqRqSHpKAr TIMES AzD! PLUS KU3zNSHEzSH2#3yBAD!LAG!RzIzUyERIN2zSH2yGA!L!N2 TENU",
   "!R# PLUS SHA3 PLUS AzI!R2!SH$ CROSSING GISH%PLUS SARzU!D!R7yHI TIMES ASH2yIGIzMyKA!KzI!DyLIzU",
   "!MyME! PLUS DU+GI+TEzI! PLUS NUNUZyNEzUNyPAzIyRUySA!RzHA!E!ID!U#LzIGzUHURyTARzUyUz U Uz2zD",
   "zMUM TIMES PAzR!2zSHyZIr2s CROSSING KA2rBrD2s3s4s5t OVER KAD5rKs TIMES IGI GUNUrL",
   "s CROSSING KALtTIMES BADrM2s4rP ELAMITErSKALv LAGAB TIMES U OVER LAGAB TIMES U",
   "wOVER KASKAL LAGAB TIMES U OVER LAGAB TIMES UqESH2qIr TIMES BADyUzDrDrNrSALsHsIM5v OVER KISIM5",
   "qUr OVER HI TIMES ASH2 KU OVER HI TIMES ASH2r3r4s VARIANT FORMr7rLs GUNUrNrRs OPPOSING KUR",
   "rSHU2qWU318pLArGABu SQUAREDvTIMES A$ PLUS DA PLUS HA.GAR.LAL$L$N$SH ZIDA TENU#BAD$I#DAR#EN#GA",
   "%R$I$UD& PLUS GUD#HA%L$I TIMES NUN#IGI GUNU$M% PLUS HA:LU#KI%N$U3%L& PLUS HI PLUS A#LAGAB$ISH",
   "$U%L#ME% PLUS EN$USH#NE#SHE PLUS SUM%ITA PLUS GISH PLUS ERIN2_TENU%U2* PLUS SHU2$UM#TAG%K4",
   "$E PLUS A PLUS SU PLUS NA#U$ PLUS A.U PLUS U$2 PLUS ASH$D$SH#ZU OVER ZUtRu GUNU",
   "z OVER LAGAR GUNU SHEvTIMES SHE& PLUS SUMrHSHUrK-003u21v5u30u50v1u62u79 OVER LAK-079 GUNUu80",
   "v1 OVER LAK-081u92t130u42t210v9u20v5v8u38u65v6t343v7v8u83v4u90t441v9w TIMES GU%IGI",
   "%PAP PLUS LU3=PAP PLUS LU3%U2 PLUS BAu50v7u70u83u90v2v3v5t550t608u17w TIMES ASH%BAD",
   "%DUN3 GUNU GUNU%KU3%LA%TAR&E%U2&D&RUDAu36u48w TIMES DUB%GA%IGI+ GUNU%NI%PAP PLUS PAP PLUS LU3",
   "%SHESH PLUS KI%UD&RUDAt724u49rLs TIMES LALrMs TIMES KUR$ PLUS RUqIrLrMMU2rSHqUr TIMES BADr2",
   "s CROSSING LU2tGUNU TIMES ASHtOPPOSING LU2tSHESHIG! TIMES BADuQUAREDtTENUuIMES ALzBADzDISH",
   "zESH2% PLUS LAL&TENUzGAN2 TENUzHAL!I TIMES BADzIMzKAD2$3% PLUS ASH!IzLA PLUS ASH#GAB",
   "zME PLUS ENzNE!UzPAP$ PLUS PAP PLUS LU3zSHU!I PLUS ASH#K2 PLUS BUzTAK4!UG2r3rGAL",
   "u OPPOSING LUGALwVER LUGALvSHESHIGrHrLrMs OVER LUM# GAR OVER GARpMAr GUNUsTIMES TAK4r2rHrRrSH",
   "t2qErSsHqIr PLUS ZA7rNqUr OVER MUrGs GUNUrNSUBrRGU2rSHt CROSSING MUSHuOVER MUSH",
   "% TIMES A PLUS NA;GA;KAKuTIMES A!KUR!ZAt3u GUNUvTIMES A$ PLUS DI#DI#ZApNAr2r4rGAt INVERTED",
   "uOPPOSING NAGAuTIMES SHU TENUtRrMs NUTILLUs2qEr SHESHIGsTIMES AyUDqIr TIMES Er2rM",
   "s TIMES GAN2 TENU#R PLUS GAN2 TENUrNs9sDA2v TIMES AN%SH* PLUS ASH$BAL$DIM GUNU$GI&SH%UD&L$HI",
   "$KESH2$LAK-050$MASH%E PLUS GAN2 TENU$NE%UN$PAP PLUS PAP$SHE* PLUS A AN=SH? PLUS ASH$U% PLUS U",
   "%2 PLUS ASH%RUDA%SHrSAGqUr11t OVER NU11 BUR OVER BURuROTATED NINETY DEGREESuTENUrN",
   "s CROSSING NUN* LAGAR OVER LAGARtLAGAR TIMES GAR*MASH*SAL. OVER NUN LAGAR TIMES SAL*USH",
   "tOVER NUNtTENUsUZu AB2 TIMES ASHGAB*BI*DUG*GUD*IGI GUNU*KAD3*LA*NE*SILA3*U2vKISIM5 TIMES BI; U",
   "pPArDrNrPqESH2u ASTERISKqIr CROSSING PIsTIMES AzByBIzUyEyIzByUz2rR2sIGu OPPOSING PIRIG",
   "vTIMES KAL#UD#ZApRArBqIqUpSArGs GUNUx TIMES HAtNUTILLUtOVER SAGtTIMES AzDU#BzENzHAzIGI GUNU",
   "zKAK!URzLUMzMIzNUNzSAL!HE AT LEFT#IDzTAB#K4zU2!B!M!R!SHrLs LAGAB TIMES ASH2rNGA2rRqHAs3",
   "t TIMES A!BAD!GISH!NE!SHU2!TUR!U# PLUS As6t TENUsB6sR2rEs HUtOVER SHE",
   "# GAD OVER GAD GAR OVER GAR$TAB OVER TAB GAR OVER GARtPLUS HUB2yNAM2ySARsG9sNsSHu2uLAMrID",
   "t TIMES A!IMsMt TIMES A!BAL#ULUG!DIN!GAR!IGI% GUNU!KUSHU2!LUL!MUG!SALsNIGsR",
   "t OVER SHIR BUR OVER BURuTENUsTArUs OVER INVERTED SHUs2t PLUS DUG TIMES NIzE2 TIMES ANsBURqI",
   "r GUNUsTIMES TAK4rGs4t OVER SIG4 SHU2rK2rLA3qUr OVER SUrDs2rHURrMsASHrRs9pTAr ASTERISKsGUNU",
   "sTIMES HIyMIrBs OVER TAB NI OVER NI DISH OVER DISHtSQUAREDrGs TIMES BIzGUDzSHE#UzTUG2zUDrK4",
   "t PLUS SAGrRqEr GUNUqIr TENUr2rLrRs OVER TIR# GAD OVER GAD GAR OVER GARtTIMES TAK4qUrG2rKrM",
   "s TIMES GAN2 TENUzTHREE DISHrRs OVER TUR ZA OVER ZApUq GUDrOVER U PA OVER PA GAR OVER GAR",
   "ySUR OVER SURyU REVERSED OVER U REVERSEDrUs Uq2qBqDr GUNUsKUSHU2sSHESHIGz TIMES BADsTIMES BAD",
   "yMIyU PLUS U PLUS U> GUNUrUGqMr TIMES LAGAByME! PLUS DAySHA3yUrBINrUMt TIMES KASKAL!PAqNr GUNU",
   "qRr CROSSING URsSHESHIGr2s INVERTEDtTIMES A PLUS HA+NA!LzHAzNUNzU2# PLUS ASH,BI!Dr4rIs3rU",
   "s TIMES A!SHGABzBARzDARA3!UNzGA#L#N2 TENU#R!UzHAzIGI!M!SHzKIzLAK-668!U3#MzMINzPAzSHE!IG4zTU",
   "zU PLUS GUD!D!RUDAsDAu TIMES UqSHs TIMES AzKU#RzTAK4s2sUMXsXqTUKIqZ3s TIMES KASKALrUpZA",
   "r SQUARED TIMES KURsTENUr7rGrMXqE2qIr OVER ZIr3rBs KABA TENUrGrZ2qUr OVER ZU PLUS SARr5",
   "s TIMES AzTHREE DISH TENUrBURrMcP ON BLACK SQUAREeWITH STRAWdCAKEdIDOcRLING STONE",
   "eY BRACKET EXTENSIONgLOGICAL ANDoORiOPdRENCY EXCHANGEjSIGNeY AND RICE",
   "dVED STEM PARAGRAPH SIGN ORNAMENTcSTARDeOMScT OF MEATbYCLONEcLINDRICITYcPRIOT SYLLABLE ArErI",
   "rJAsOrKAsEsIsOsUrLAsEsIsOsUrMAsEsIsOsUrNAsEsIsOsUrOrPAsEsIsOsUrRAsEsIsOsUrSAsEsIsOsUrTAsEsIsO",
   "sUrUrWAsEsIsOrXAsErZAsOeO-MINOAN SIGN CM001w2w4w5w6w7w8w9v10w1w2xBw3w5w7w9v21w3w4w5w6w7w8w9v30",
   "w3w4w5w6w7w8w9v40w1w4w6w7w9v50w1w2w3w4w5w6w8w9v60w1w2w3w4w6w7w8w9v70w1w2w3w4w5xBw6w8w9v80w1w2",
   "w3w4w5w6w7w8w9v90w1w2w4w5w6w7w8w9u100w1w2w3w4w5w7w8w9v10w2w4u301w2cRILLIC CAPITAL LETTER A",
   "z WITH BREVE*DIAERESISzBKHASIAN CHE< WITH DESCENDER.DZE.HAzLEUT KAyBARRED O+ WITH DIAERESIS",
   "!SHKIR KAzEzIG YUS!NOCULAR OzLENDED YUSzROAD OMEGAzYELORUSSIAN-UKRAINIAN IyCCHEzHE",
   "# WITH DESCENDER.IAERESIS,VERTICAL STROKEzLOSED LITTLE YUSzROSSED OyDCHEzEzJE#RV",
   "zOUBLE MONOCULAR O*OzWEzZE#LO!HE!WE!ZE#HEyEz WITH DIAERESISzFzL! WITH DESCENDER+HOOK",
   "+MIDDLE HOOK+TAILzM! WITH TAILzN! WITH DESCENDER+HOOK+LEFT HOOK+MIDDLE HOOK+TAILzR! WITH TICK",
   "zS! WITH DESCENDERyFITAyGHE# WITH DESCENDER,MIDDLE HOOK,STROKE> AND HOOK,UPTURNzJEyHA",
   "! WITH DESCENDER+HOOK+STROKE!RD SIGNzWEyIz WITH DIAERESIS*GRAVE*MACRONzE! WITH BREVE+GRAVEzO",
   "!TA#IFIED A,BIG YUS,CLOSED LITTLE YUS,E,LITTLE YUS,YATzZHITSA* WITH DOUBLE GRAVE ACCENTyJEyKA",
   "! WITH DESCENDER+HOOK+STROKE+VERTICAL STROKEzHAKASSIAN CHEzJEzOMI DE&JE&ZJE%LJE%NJE%SJE%TJE",
   "%ZJE!PPAzSIyLHAzITTLE YUSzJEyMONOCULAR O$GRAPH UKyNEUTRAL YERzJEyOz WITH DIAERESISzMEGA",
   "% WITH TITLOzTyPE! WITH DESCENDER+MIDDLE HOOKzSIyQAyREVERSED DZE,TSE,YU,ZEzHAzOUND OMEGAySCHWA",
   "% WITH DIAERESISzEMISOFT SIGNzHA!CHA!HA$ WITH DESCENDER!ORT I* WITH TAIL&U!WEzOFT DE%EL&M%SIGN",
   "zTRAIGHT U. WITH STROKEyTCHEzE! WITH DESCENDER+MIDDLE HOOKzSE!HE!SE!WEzWEyUz WITH DIAERESIS",
   "+OUBLE ACUTE*MACRONzK!RAINIAN IEyVEyWEyYA!E!TzERU$ WITH BACK YER.DIAERESISzIzNzUyZE",
   "! WITH DESCENDER,IAERESIS!MLYAzHE# WITH BREVE,DESCENDER.IAERESIS!WEsIGATURE A IE!EN GHE!TE TSE",
   "jKAVYKAjLETTER MULTIOCULAR OqPALOCHKAqSMALL CAPITAL ELjPAYEROKjSMALL LETTER Ax WITH BREVE",
   "%DIAERESISxBKHASIAN CHE: WITH DESCENDER+DZE+HAxLEUT KAwBARRED O& WITH DIAERESISySHKIR KAxE",
   "xIG YUSyNOCULAR OxLENDED YUSxROAD OMEGAxYELORUSSIAN-UKRAINIAN IwCCHExHEz WITH DESCENDER",
   "+IAERESIS*VERTICAL STROKExLOSED LITTLE YUSxROSSED OwDCHExExJEzRVxOUBLE MONOCULAR O%OxWExZEzLO",
   "yHEyWEyZEzHEwEx WITH DIAERESISxFxLy WITH DESCENDER&HOOK&MIDDLE HOOK&TAILxMy WITH TAILxN",
   "y WITH DESCENDER&HOOK&LEFT HOOK&MIDDLE HOOK&TAILxRy WITH TICKxSy WITH DESCENDERwFITAwGHE",
   "z WITH DESCENDER*MIDDLE HOOK*STROKE< AND HOOK*UPTURNxJEwHAy WITH DESCENDER&HOOK&STROKEyRD SIGN",
   "xWEwIx WITH DIAERESIS%GRAVE%MACRONxEy WITH BREVE&GRAVExOyTAzIFIED A*BIG YUS*CLOSED LITTLE YUS",
   "*E*LITTLE YUS*YATxZHITSA% WITH DOUBLE GRAVE ACCENTwJEwKAy WITH DESCENDER&HOOK&STROKE",
   "&VERTICAL STROKExHAKASSIAN CHExJExOMI DE$JE$ZJE#LJE#NJE#SJE#TJE#ZJEyPPAxSIwLHAxITTLE YUSxJE",
   "xONG-LEGGED DEwMONOCULAR O!GRAPH UKwNARROW OxEUTRAL YERxJEwOx WITH DIAERESISxMEGA# WITH TITLO",
   "xTwPALOCHKAxEy WITH DESCENDER&MIDDLE HOOKxSIwQAwREVERSED DZE*TSE*YU*ZExHAxOUND OMEGA#ED VE",
   "wSCHWA# WITH DIAERESISxEMISOFT SIGNxHAyCHAyHA! WITH DESCENDERyORT I% WITH TAIL$UyWExOFT DE#EL",
   "$M#SIGNxTRAIGHT U+ WITH STROKEwTALL HARD SIGN#TE#YATxCHExEy WITH DESCENDER&MIDDLE HOOK",
   "xHREE-LEGGED TExSEyHEySEyWExWEwUx WITH DIAERESIS&OUBLE ACUTE%MACRONxKyRAINIAN IExNBLENDED UK",
   "wVEwWExIDE ESwYAyEyTxERU! WITH BACK YER+DIAERESISxIxNxUwZEy WITH DESCENDER*IAERESISyMLYAxHE",
   "z WITH BREVE*DESCENDER+IAERESISyWEqIGATURE A IEyEN GHEyTE TSEjTHOUSANDS SIGN"]

end LoadBinding.Text
