/-!
# Names of characters, M to Z

The names that the Unicode standard gives to characters, as far as they are no series, with the
correct and the short names that it lists beside them: those that begin with M to Z, in the
spelling of `Text/CharacterName`.
-/

namespace LoadBinding.Text

/-- The names that begin with M to Z. -/
def namesMToZ : List String :=
  ["aMACRONcGEdIC WANDdNETcHAJANI ABBREVIATION SIGNjLETTER AqBArHAqCArHAqDArDAsHArHAqEqGArHAqHAqI",
   "qJArHAqKArHAqLAqMAqNArNArYAqOqPArHAqRArRAqSAqTArHArTAsHAqUqVAkIGATURE SHRIjSECTION MARK",
   "kIGN NUKTAdJONG TILE AUTUMNnBACKpMBOOnCHRYSANTHEMUMnEAST WINDoIGHT OF BAMBOOSwCHARACTERS",
   "xIRCLESnFIVE OF BAMBOOSvCHARACTERSwIRCLESoOUR OF BAMBOOSvCHARACTERSwIRCLESnGREEN DRAGONnJOKER",
   "nNINE OF BAMBOOSvCHARACTERSwIRCLESoORTH WINDnONE OF BAMBOOSuCHARACTERSvIRCLESoRCHIDnPLUM",
   "nRED DRAGONnSEVEN OF BAMBOOSwCHARACTERSxIRCLESoIX OF BAMBOOSuCHARACTERSvIRCLESoOUTH WINDoPRING",
   "oUMMERnTHREE OF BAMBOOSwCHARACTERSxIRCLESoWO OF BAMBOOSuCHARACTERSvIRCLESnWEST WIND",
   "oHITE DRAGONoINTERcKASAR ANGKAiEND OF SECTIONiLETTER ApBApCApDApGApJApKApLApMApNAqGAqYApPApRA",
   "pSApTApVApYAiPASSIMBANGiVOWEL SIGN EtItOtUcLAYALAM AU LENGTH MARKkDATE MARKlIGIT EIGHTqFIVE",
   "rOURqNINEqONEqSEVENrIXqTHREErWOqZEROkFRACTION ONE EIGHTHxFIFTHyORTIETHxHALF",
   "xONE-HUNDRED-AND-SIXTIETHxQUARTERxSIXTEENTHxTENTHyWENTIETHtTHREE EIGHTIETHSzQUARTERS",
   "zSIXTEENTHSzTWENTIETHSkLETTER AsAsIsRCHAIC IIsUrBAsHArCAsHAtILLU KyLzL!LyMyNzNyRRyYrDAsDAtHA",
   "sHAsOT REPHrEsErGAsHArHArIsIrJAsHArKAsHArLAsLAtLArMArNAsGAsNAtNAsYArOsOrPAsHArRAsRArSAsHAsSA",
   "rTAsHAsTAtHAtTArUsUrVAsEDIC ANUSVARAsOCALIC L!LzR!RrYAkNUMBER ONE HUNDREDvTHOUSANDrTEN",
   "kSIGN ANUSVARAqVAGRAHApCANDRABINDUqIRCULAR VIRAMAqOMBINING ANUSVARA ABOVEpPARA",
   "pVERTICAL BAR VIRAMAqIRAMArSARGAkVOWEL SIGN AAwIwUvEwEvIwIvOwOvUwUvVOCALIC L&L%R&R",
   "dE AND FEMALE SIGNfSIGNfWITH STROKE AND MALE AND FEMALE SIGNrSIGNdTESE CROSScMMOTHcN",
   "d AND WOMAN HOLDING HANDSeDANCINGeIN BUSINESS SUIT LEVITATINGhTUXEDOeWITH GUA PI MAOjTURBAN",
   "dAT SIGNdDAIC AFFRICATION MARKiGEMINATION MARKiLETTER ABqDqGqHqINqKrSAqLqMqNqPqQqRqSrHrZqTrTqZ",
   "pDUSHENNApHALQApINqTpKADpUSHENNAiPUNCTUATIONiVOCALIZATION MARKdGO",
   "dICHAEAN ABBREVIATION MARK ABOVE%BELOWlLETTER AAYINtLEPHtYINsBETHtHETHsDALETHtHAMEDHsFEsGHIMEL",
   "tIMELsHEuTHsJAYINtHAYINsKAPHtHAPHsLAMEDHsMEMsNUNsPEsQHOPHtOPHsRESHsSADHEuMEKHtHINtSHINsTAWtETH",
   "tHAMEDHsWAWsXAPHtOPHsYODHsZAYINtHAYINlNUMBER FIVEsONEv HUNDREDsTENtWENTYlPUNCTUATION DOT",
   "! WITHIN DOTzUBLE DOT WITHIN DOTxFLEURONxLINE FILLERxSTARxTWO DOTSlSIGN UDdS SHOE",
   "dTELPIECE CLOCKdUAL WHEELCHAIRcP SYMBOL FOR LIGHTHOUSEdLE LEAFcRCHEN HEAD MARKiLETTER -ApApBA",
   "pCAqHApDAqZApGApHApJApKAqHApLApMApNAqGAqYApPAqHApRApSAqHApTAqHAqSArHApWApYApZAqHAiMARK SHAD",
   "iSIGN ANUSVARAnCANDRABINDUjUBJOINED LETTER AzBAzCA!HAzDA!ZAzGAzHAzJAzKA!HAzLAzMAzNA!GA!YAzPA",
   "!HAzRAzSA!HAzTA!HA!SA#HAzWAzYAzZA!HAiVOWEL SIGN AAtEtItOtUdRIAGE SYMBOLdTIAL ARTS UNIFORM",
   "cSARAM GONDI DIGIT EIGHTuFIVEvOURuNINEuONEuSEVENvIXuTHREEvWOuZEROoLETTER AwAwIwUvBAwHAvCAwHA",
   "vDAwDAxHAwHAvEvGAwHAvHAvIwIvJAwHAwNYAvKAwHAwSSAvLAwLAvMAvNAwGAwNAwYAvOvPAwHAvRAvSAwHAwSAvTAwHA",
   "wRAwTAxHAvUwUvVAvYAoRA-KARApEPHAoSIGN ANUSVARAtCANDRAtHALANTAtNUKTAtVISARGAoVIRAMA",
   "pOWEL SIGN AA!I!UzEzI!IzOzU!UzVOCALIC RdCULINE ORDINAL INDICATORdK WORK SYMBOLdU MARKcTE DRINK",
   "dHEMATICAL BOLD CAPITAL A#LPHA!B#ETA!C#HI!D#ELTA#IGAMMA!E#PSILON#TA!F!G#AMMA!H!I#OTA!J!K#APPA",
   "!L#AMDA!M#U!N#U!O#MEGA$ICRON!P#HI#I#SI!Q!R#HO!S#IGMA!T#AU#HETA* SYMBOL!U#PSILON!V!W!X#I!Y!Z",
   "#ETAsDIGIT EIGHTyFIVEzOURyNINEyONEySEVENzIXyTHREEzWOyZEROsEPSILON SYMBOLsFRAKTUR CAPITAL A.B.C",
   ".D.E.F.G.H.I.J.K.L.M.N.O.P.Q.R.S.T.U.V.W.X.Y.Z!SMALL A+B+C+D+E+F+G+H+I+J+K+L+M+N+O+P+Q+R+S+T+U",
   "+V+W+X+Y+ZsITALIC CAPITAL A.LPHA,B.ETA,C.HI,D.ELTA,E.PSILON.TA,F,G.AMMA,H,I.OTA,J,K.APPA,L",
   ".AMDA,M.U,N.U,O.MEGA:ICRON,P.HI.I.SI,Q,R.HO,S.IGMA,T.AU.HETA= SYMBOL,U.PSILON,V,W,X.I,Y,Z.ETA",
   "zEPSILON SYMBOLzKAPPA SYMBOLzNABLAzPARTIAL DIFFERENTIAL!HI SYMBOL!I SYMBOLzRHO SYMBOLzSMALL A",
   "+LPHA*B+ETA*C+HI*D+ELTA*E+PSILON+TA*F+INAL SIGMA*G+AMMA*H*I+OTA*J*K+APPA*L+AMDA*M+U*N+U*O+MEGA",
   ",ICRON*P+HI+I+SI*Q*R+HO*S+IGMA*T+AU+HETA*U+PSILON*V*W*X+I*Y*Z+ETAzTHETA SYMBOLsKAPPA SYMBOL",
   "sNABLAsPARTIAL DIFFERENTIALtHI SYMBOLtI SYMBOLsRHO SYMBOLsSCRIPT CAPITAL A,B,C,D,E,F,G,H,I,J,K",
   ",L,M,N,O,P,Q,R,S,T,U,V,W,X,Y,ZzSMALL A*B*C*D*E*F*G*H*I*J*K*L*M*N*O*P*Q*R*S*T*U*V*W*X*Y*Z",
   "tMALL AzLPHAyBzETAyCzHIyDzELTAzIGAMMAyEzPSILONzTAyFzINAL SIGMAyGzAMMAyHyIzOTAyJyKzAPPAyLzAMDA",
   "yMzUyNzUyOzMEGA!ICRONyPzHIzIzSIyQyRzHOySzIGMAyTzAUzHETAyUzPSILONyVyWyXzIyYyZzETAsTHETA SYMBOL",
   "nDOUBLE-STRUCK CAPITAL A:B:D:E:F:G:I:J:K:L:M:O:S:T:U:V:W:X:Y#DIGIT EIGHT,FIVE.OUR,NINE,ONE",
   ",SEVEN.IX,THREE.WO,ZERO#SMALL A,B,C,D,E,F,G,H,I,J,K,L,M,N,O,P,Q,R,S,T,U,V,W,X,Y,Z",
   "nFALLING DIAGONALoRAKTUR CAPITAL A%B%D%E%F%G%J%K%L%M%N%O%P%Q%S%T%U%V%W%X%YvSMALL A#B#C#D#E#F#G",
   "#H#I#J#K#L#M#N#O#P#Q#R#S#T#U#V#W#X#Y#ZnITALIC CAPITAL A%LPHA$B%ETA$C%HI$D%ELTA$E%PSILON%TA$F$G",
   "%AMMA$H$I%OTA$J$K%APPA$L%AMDA$M%U$N%U$O%MEGA&ICRON$P%HI%I%SI$Q$R%HO$S%IGMA$T%AU%HETA, SYMBOL$U",
   "%PSILON$V$W$X%I$Y$Z%ETAuEPSILON SYMBOLuKAPPA SYMBOLuNABLAuPARTIAL DIFFERENTIALvHI SYMBOL",
   "vI SYMBOLuRHO SYMBOLuSMALL A#LPHA!B#ETA!C#HI!D#ELTA#OTLESS I.J!E#PSILON#TA!F#INAL SIGMA!G#AMMA",
   "!I#OTA!J!K#APPA!L#AMDA!M#U!N#U!O#MEGA$ICRON!P#HI#I#SI!Q!R#HO!S#IGMA!T#AU#HETA!U#PSILON!V!W!X#I",
   "!Y!Z#ETAuTHETA SYMBOLnLEFT ANGLE BRACKETsDOUBLE ANGLE BRACKETsFLATTENED PARENTHESIS",
   "sWHITE SQUARE BRACKETyTORTOISE SHELL BRACKETnMONOSPACE CAPITAL A*B*C*D*E*F*G*H*I*J*K*L*M*N*O*P",
   "*Q*R*S*T*U*V*W*X*Y*ZxDIGIT EIGHT%FIVE&OUR%NINE%ONE%SEVEN&IX%THREE&WO%ZEROxSMALL A%B%C%D%E%F%G",
   "%H%I%J%K%L%M%N%O%P%Q%R%S%T%U%V%W%X%Y%ZnRIGHT ANGLE BRACKETtDOUBLE ANGLE BRACKET",
   "tFLATTENED PARENTHESIStWHITE SQUARE BRACKETzTORTOISE SHELL BRACKETpSING DIAGONAL",
   "nSANS-SERIF BOLD CAPITAL A=LPHA<B=ETA<C=HI<D=ELTA<E=PSILON=TA<F<G=AMMA<H<I=OTA<J<K=APPA<L=AMDA",
   "<M=U<N=U<O=MEGA>ICRON<P=HI=I=SI<Q<R=HO<S=IGMA<T=AU=HETA^ SYMBOL<U=PSILON<V<W<X=I<Y<Z=ETA",
   "%DIGIT EIGHT:FIVE;OUR:NINE:ONE:SEVEN;IX:THREE;WO:ZERO%EPSILON SYMBOL%ITALIC CAPITAL A~LPHA|B",
   "~ETA|C~HI|D~ELTA|E~PSILON~TA|F|G~AMMA|H|I~OTA|J|K~APPA|L~AMDA|M~U|N~U|O~MEGA(ICRON|P~HI~I~SI|Q",
   "|R~HO|S~IGMA|T~AU~HETA)TA SYMBOL|U~PSILON|V|W|X~I|Y|Z~ETA;EPSILON SYMBOL;KAPPA SYMBOL;NABLA",
   ";PARTIAL DIFFERENTIAL<HI SYMBOL<I SYMBOL;RHO SYMBOL;SMALL A_LPHA^B_ETA^C_HI^D_ELTA^E_PSILON_TA",
   "^F_INAL SIGMA^G_AMMA^H^I_OTA^J^K_APPA^L_AMDA^M_U^N_U^O_MEGA|ICRON^P_HI_I_SI^Q^R_HO^S_IGMA^T_AU",
   "_HETA^U_PSILON^V^W^X_I^Y^Z_ETA;THETA SYMBOL%KAPPA SYMBOL%NABLA%PARTIAL DIFFERENTIAL&HI SYMBOL",
   "&I SYMBOL%RHO SYMBOL%SMALL A;LPHA:B;ETA:C;HI:D;ELTA:E;PSILON;TA:F;INAL SIGMA:G;AMMA:H:I;OTA:J",
   ":K;APPA:L;AMDA:M;U:N;U:O;MEGA<ICRON:P;HI;I;SI:Q:R;HO:S;IGMA:T;AU;HETA:U;PSILON:V:W:X;I:Y:Z;ETA",
   "%THETA SYMBOLyCAPITAL A+B+C+D+E+F+G+H+I+J+K+L+M+N+O+P+Q+R+S+T+U+V+W+X+Y+ZyDIGIT EIGHT&FIVE*OUR",
   "&NINE&ONE&SEVEN*IX&THREE*WO&ZEROyITALIC CAPITAL A>B>C>D>E>F>G>H>I>J>K>L>M>N>O>P>Q>R>S>T>U>V>W",
   ">X>Y>Z*SMALL A<B<C<D<E<F<G<H<I<J<K<L<M<N<O<P<Q<R<S<T<U<V<W<X<Y<ZySMALL A&B&C&D&E&F&G&H&I&J&K&L",
   "&M&N&O&P&Q&R&S&T&U&V&W&X&Y&ZoCRIPT CAPITAL A$C$D$G$J$K$N$O$P$Q$S$T$U$V$W$X$Y$ZuSMALL A!B!C!D!F",
   "!H!I!J!K!L!M!N!P!Q!R!S!T!U!V!W!X!Y!ZcXIMIZEcYAN NUMERAL EIGHTtEENpLEVENoFIFTEENqVEpOURsTEEN",
   "oNINEsTEENoONEoSEVENtTEENpIXrTEENoTENpHIRTEENqREEpWELVEqOoZERObEASURED ANGLEo OPENING LEFT",
   "pWITH OPEN ARM ENDING IN ARROW POINTING DOWN AND LEFT)INTING DOWN AND RIGHT",
   ")INTING LEFT AND DOWN)INTING LEFT AND UP)INTING RIGHT AND DOWN)INTING RIGHT AND UP",
   ")INTING UP AND LEFT)INTING UP AND RIGHTjBYjRIGHT ANGLE WITH DOTdT ON BONEcCHANICAL ARMlLEG",
   "cDEFAIDRIN CAPITAL LETTER A$I$TIU#B#C#D#E#F#G#H$P#I#J#K$P#L#M#N$G$Y#O$E#P#Q#R#S#T#U#V#W#X#Y$U",
   "#ZnOMMAmDIGIT EIGHTsFIVEtOURsNINEsONEv ALTERNATE FORMsSEVENtIXsTHREEx ALTERNATE FORMtWO",
   "v ALTERNATE FORMsZEROmEXCLAMATION OHmFULL STOPmNUMBER EIGHTEENuLEVENtFIFTEENuOURTEENtNINETEEN",
   "tSEVENTEENuIXTEENtTENuHIRTEENuWELVEmSMALL LETTER A!I!TIUzBzCzDzEzFzGzH!PzIzJzK!PzLzMzN!G!YzO!E",
   "zPzQzRzSzTzUzVzWzXzY!UzZnYMBOL AIVAdIEVAL COMMAjEXCLAMATION MARKjQUESTION MARKeUM BLACK CIRCLE",
   "iOLD WHITE CIRCLEhEIGHT POINTED BLACK STARnSPOKED ASTERISKhFIVE SPOKED ASTERISK",
   "iLATTENED LEFT PARENTHESIS ORNAMENTrRIGHT PARENTHESIS ORNAMENTiOUR POINTED BLACK STAR",
   "uPINWHEEL STARhGREEK CROSShLEFT CURLY BRACKET ORNAMENTmPARENTHESIS ORNAMENT",
   "l-POINTING ANGLE BRACKET ORNAMENThMATHEMATICAL SPACEhRIGHT CURLY BRACKET ORNAMENT",
   "nPARENTHESIS ORNAMENTm-POINTING ANGLE BRACKET ORNAMENThSALTIREiHADEiIX POINTED BLACK STAR",
   "lSPOKED ASTERISKiMALL WHITE CIRCLEhTHREE POINTED BLACK STARvPINWHEEL STARhVERTICAL BAR",
   "hWHITE CIRCLEnSQUAREcETEI MAYEK AHANG KHUDAMoNJIoPUN IYEKnCHEIKHANtEInDIGIT EIGHTtFIVEuOUR",
   "tNINEtONEtSEVENuIXtTHREEuWOtZEROnLETTER ATIYAuBAvHAMuCHAwILuDDAwHAvHOUvILuEuGHOUvOKuHUKuI",
   "v LONSUMuJHAMvILuKHOUvOKx LONSUMuLAIx LONSUMuMITx LONSUMuNAw LONSUMvGOUy LONSUMvNAvYAuOuPA",
   "w LONSUMvHAMuRAIuSAMvHAvSAuTHOUvILx LONSUMvTAwHAuUNuWAIuYANGoUM IYEKnSYLLABLE REPETITION MARK",
   "nVIRAMAoOWEL SIGN AAI!UzNAPzUyCHEINAPyIIzNAPyNUNGyONAPySOUNAPyUNAPzUyVISARGAyYENAP",
   "nWORD REPETITION MARKcLONdTING FACEcMOcNDE KIKAKUI COMBINING NUMBER HUNDRED THOUSANDS=S",
   "*MILLIONS*TEENS,N THOUSANDS.S+HOUSANDSoDIGIT EIGHTuFIVEvOURuNINEuONEuSEVENvIXuTHREEvWO",
   "oSYLLABLE M001 KI!2 KA!3 KU!4 WI!5 WA!6 WU!7 MIN!8 MAN!9 MUNz10 BI!1 BA!2 BU!3 I!4 A!5 U!6 DI",
   "!7 DA!8 DU!9 SIz20 SA!1 SU!2 TI!3 TA!4 TU!5 LI!6 LA!7 LU!8 JI!9 JAz30 JU!1 YI!2 YA!3 YU!4 FI",
   "!5 FA!6 FU!7 NIN!8 NAN!9 NUNz40 HEE!1 HA!2 HOO!3 NGGA!4 KPEE!5 WO!6 HUAN!7 MBEE!8 KO!9 WVA",
   "z50 PU!1 PE!2 HEN!3 HIN!4 LOO!5 TE!6 GBA!7 NGON!8 NYAN!9 MENz60 NYON!1 WVI!2 MBA!3 JO!4 NDO",
   "!5 KEE!6 PO!7 NDOO!8 PI!9 TOz70 GBO!1 GBOO!2 MBE!3 LE!4 KPU!5 FE!6 KOO!7 VO!8 FEE!9 SOz80 YE",
   "!1 PEE!2 NGGU!3 HEEI!4 LEE!5 VE!6 LONG NGGE!7 HUN!8 FO!9 DEEz90 NGGI!1 TEE!2 KPA!3 GBEE!4 MON",
   "!5 KE!6 HE!7 BE!8 NYEN!9 PAy100 E!1 FAN!2 POO!3 BOO!4 TOO!5 LONG MBOO!6 LONG NGGOO!7 GBE!8 KPE",
   "!9 YEEz10 LONG LE!1 GA!2 KPOO!3 JE!4 WOO!5 NGGEE!6 SE!7 NEN!8 WE!9 NDEz20 NGGO!1 YO!2 MBU",
   "!3 NDI!4 GBI!5 NDU!6 WEE!7 NGGUA!8 HOOU!9 NDAz30 HAN!1 IN!2 KPI!3 FOO!4 NJOO!5 IN!6 SOO!7 EI",
   "!8 BO!9 WVEz40 HO!1 YOO!2 LONG MBO!3 WEI!4 VOO!5 MBI!6 NGGE!7 O!8 GBU!9 NJEEz50 BEE!1 VU!2 NJA",
   "!3 LO!4 MUAN!5 GI!6 NGGOO!7 JEE!8 KPO!9 NGGAAz60 JOO!1 LONG MBE!2 SEE!3 EE!4 NYIN!5 OO!6 GUEI",
   "!7 GUAN!8 GU!9 NONz70 NYUN!1 RA!2 MBOO!3 VEE!4 MBO!5 LONG JO!6 HI!7 NGUAN!8 EN!9 KUAz80 DOO",
   "!1 DO!2 VI!3 LONG NGGO!4 NGEN!5 VA!6 HU!7 MBUU!8 MBEE!9 MUENz90 GEE!1 NDEE!2 NJU!3 HON!4 WUI",
   "!5 AN!6 SIA!7 FUAdORAH WITH NINE BRANCHESdS SYMBOLcRCURYdOITIC CURSIVE FRACTION EIGHT TWELFTHS",
   "#LEVEN TWELFTHS!FIVE TWELFTHS#OUR TWELFTHS!NINE TWELFTHS!ONE HALF&TWELFTH!SEVEN TWELFTHS",
   "#IX TWELFTHS!TEN TWELFTHS#HREE TWELFTHS#WO TWELFTHSrLETTER AzRCHAIC SAyBAyDAyEyHHAyIyKAzHAyLA",
   "yMAyNAzEyOyPAyQAyRAySAzEyTAzEzOyWAyYAsOGOGRAM IMN!RMTrNUMBER EIGHT% HUNDRED< THOUSAND&THOUSAND",
   "%Y THOUSANDyFIFTY% THOUSAND!VE$ HUNDRED; THOUSAND%THOUSANDzORTY% THOUSAND!UR$ HUNDRED",
   "; THOUSAND%THOUSANDyNINE$ HUNDRED; THOUSAND%THOUSAND$TY THOUSANDyONE# HUNDRED: THOUSAND",
   "$THOUSANDySEVEN% HUNDRED< THOUSAND&THOUSAND%TY* THOUSANDzIX# HUNDRED: THOUSAND$THOUSAND#TY",
   "% THOUSANDyTEN# THOUSANDzHIRTY& THOUSAND!REE% HUNDRED< THOUSAND&THOUSANDzWENTY& THOUSAND!O",
   "# HUNDRED: THOUSAND$THOUSANDjHIEROGLYPHIC LETTER A%BA*-2%DA%E%HHA%I%KA&HA%LA%MA%NA*-2&E*-2%O",
   "%PA%QA%RA*-2%SA*-2&E%TA*-2&E*-2&O%WA%YAwSYMBOL VIDJ,-2dPERSONcSSAGE WAITINGcTRICAL BREVE",
   "jLONG OVER SHORTtTWO SHORTSjPENTASEMEjSHORT OVER LONGjTETRASEMEkRISEMEkWO SHORTS JOINED",
   "uOVER LONGeObIAO LETTER AHnRCHAIC MAuNAvGAuZZAmBAnRImDAnDAnLHApYAnZAoHAoYIoZAmFAmGAnHAoHAmHA",
   "nHAmKAmLAnHAoYAnYAmMAnHAmNAoSALIZATIONnGAoHAnHAnNAoHAnYAoHAmPAnLAmQAnGAmREFORMED TONE-1!2!4!5",
   "!6!8wSHAnTEmSAnHAnSAnYImTAnEnLHApYAnONE-2r3r4r5r6r7r8nSAoEoHAoSAnTAmVAnFAmWAmXAmYI DZHApKApNNA",
   "pPApTAqSArHAqTAmZAnHAnSAoHAnZAoSApYAoYAfSIGN ASPIRATIONkCONSONANT MODIFIER BAR",
   "kREFORMED ASPIRATIONtVOICINGfTONE ABOVEkBELOWkRIGHTkTOP RIGHTfVOWEL SIGN ArArEsErHHrIrNsGrUqE",
   "rArIrNsGrRsRqIrAsNtGrErGrIrNGrOsNGrUqNrGqOrERsYrGrOrUqROUNDED ER!RqUrAsNtGrEIrIrNGrOGrUqVWqWrO",
   "qYrIrUIcCR DASH SYMBOLfON US SYMBOLeO SIGNfBEfPHONEfSCOPEcDDLE DOT",
   "hTHIRD WHITE RIGHT POINTING INDEXdLINE HORIZONTAL ELLIPSIScLITARY HELMETjMEDALdKY WAYdL SIGN",
   "cNIBUSeDISCeMIZEdUS SIGNk IN TRIANGLElWITH COMMA ABOVEqDOT BELOWqFALLING DOTSqRISING DOTS",
   "gTILDEf-OR-PLUS SIGNdYcRRORg BALLbMSPbOBILE PHONEm OFFnWITH RIGHTWARDS ARROW AT LEFTcDELS",
   "eRN PENTATHLONdI ABBREVIATION SIGNfDANDAgIGIT EIGHTlFIVEmOURlNINElONElSEVENmIXlTHREEmWOlZERO",
   "gOUBLE DANDAfLETTER AnAnInUmBAnHAmCAnHAmDAnDAoHAnHAmEmGAnHAmHAmInImJAnHAmKAnHAmLAnLAmMAmNAnGA",
   "nNAnYAmOmPAnHAmRAmSAnHAnSAmTAnHAnTAoHAmUnUmVAnOCALIC LvLuRvRmYAfSIGN ANUSVARAlRDHACANDRAkHUVA",
   "kVIRAMAmSARGAfVOWEL SIGN AArIrUqEqIrIqOqUrUqVOCALIC LzLyRzReFIER BREVE WITH INVERTED BREVE",
   "jLETTER ACUTE ACCENTrLVEOLAR CLICKrPOSTROPHEqBEGIN HIGH TONEwLOW TONErILABIAL CLICKqCAPITAL A",
   "zEyBzARRED ByCyDyEyFyGyHz WITH STROKEyIyJyKyLyMyNyOzUyPyQyRzEVERSED E,NyTyUyVyW",
   "rENTRED LEFT HALF RINGyRIGHT HALF RINGrHINESE TONE YANG PING.QU.RU.SHANG&IN PING,QU,RU,SHANG",
   "rIRCUMFLEX ACCENTrOLONrROSS ACCENTrYRILLIC ENzHARD SIGNzSOFT SIGNqDENTAL CLICK",
   "rOT HORIZONTAL BARuSLASHuVERTICAL BARsUBLE APOSTROPHExPRIMEsWN ARROWHEADvTACKqEND HIGH TONE",
   "uLOW TONErXTRA-HIGH DOTTED LEFT-STEM TONE BAR.TONE BAR#LEFT-STEM TONE BAR#TONE BAR",
   "wLOW DOTTED LEFT-STEM TONE BAR,TONE BAR!LEFT-STEM TONE BAR!TONE BARqGEORGIAN NARrLOTTAL STOP",
   "$ WITH STROKErRAVE ACCENTqHALF TRIANGULAR COLONrIGH DOTTED LEFT-STEM TONE BAR$TONE BAR",
   "vLEFT-STEM TONE BARvTONE BARqLATERAL CLICKrEFT ARROWHEADvHALF RINGvTACKrOW ACUTE ACCENT",
   "uCIRCUMFLEX ACCENTuDOTTED LEFT-STEM TONE BAR#TONE BARwWN ARROWHEADuGRAVE ACCENT",
   "uINVERTED EXCLAMATION MARKuLEFT ARROW&HEADy-STEM TONE BARuMACRONuRIGHT ARROWHEADwNGuTILDE",
   "vONE BARuUP ARROWHEADuVERTICAL LINEtER RIGHT CORNER ANGLEqMACRONrID DOTTED LEFT-STEM TONE BAR",
   "#TONE BARuLEFT-STEM TONE BARuTONE BARtDLE DOUBLE ACUTE ACCENT&GRAVE ACCENTxGRAVE ACCENT",
   "sNUS SIGNqOPEN SHELFqPLUS SIGNrRIMEqRAISED COLONxDOWN ARROWxEXCLAMATION MARK",
   "xINVERTED EXCLAMATION MARKxUP ARROWrETROFLEX CLICK WITH RETROFLEX HOOKsVERSED COMMA",
   "zGLOTTAL STOP< WITH STROKErHOTIC HOOKrIGHT ARROWHEADwHALF RINGwTACKqSHELFsORT EQUALS SIGN",
   "rMALL AxExINxLPHAwBx WITH HOOKxARRED OxETAxOTTOM HALF OwCx WITH CURLxAPITAL AA&B&G* WITH HOOK",
   "&H&I* WITH STROKE*NVERTED R&L* WITH BELT&N&OE&R&U&YxHIxLOSED OMEGA%REVERSED OPEN EwD",
   "x WITH HOOK, AND TAIL%TAILxELTAyZH DIGRAPHxOTLESS J WITH STROKE_ AND HOOKxZ DIGRAPH+ WITH CURL",
   "=RETROFLEX HOOKwExNGxSHxTHxZHwFxENG DIGRAPHwGx WITH HOOKxAMMAxREEK GAMMA$PHIwHx WITH HOOK",
   "%STROKExENG! WITH HOOKwI WITH STROKExOTAwJx WITH CROSSED-TAILwKwLx WITH BELT%INVERTED LAZY S",
   "%MIDDLE TILDE%PALATAL HOOK%RETROFLEX HOOK_ AND BELTxEZH! WITH RETROFLEX HOOKxIGATURE OE",
   "xS DIGRAPHxZ DIGRAPHwMx WITH HOOKwN WITH LEFT HOOK%RETROFLEX HOOKwOx WITH STROKExPEN E#OwPxHI",
   "wQwRx WITH FISHHOOK%TAILxAMS HORNxEVERSED E*GLOTTAL STOP*OPEN EwSx WITH CURL%HOOKxCHWAyRIPT G",
   "xIDEWAYS UwTx WITH PALATAL HOOK%RETROFLEX HOOKxC DIGRAPH WITH CURLxESH DIGRAPHxHETAxOP HALF O",
   "xS DIGRAPH+ WITH RETROFLEX HOOKxURNED A&E&LPHA%H%I%M& WITH LONG LEG%OPEN E%R& WITH HOOK",
   ";LONG LEG| AND RETROFLEX HOOK%V%W%Y& WITH BELTwUx BARyWITH LEFT HOOKxPSILONwVx WITH HOOK",
   "%RIGHT HOOKwWwXwYwZx WITH CURL%RETROFLEX HOOKrTRESS AND HIGH TONE#LOW TONE",
   "rUPERSCRIPT HALF TRIANGULAR COLON$TRIANGULAR COLONqTRIANGULAR COLONrURNED COMMAqUNASPIRATED",
   "rP ARROWHEADtTACKrSqVERTICAL LINErOICINGqYANG DEPARTING TONE MARKrIN DEPARTING TONE MARK",
   "dULO TWO SUMcNEY BAGgWITH WINGSf-MOUTH FACEdGOLIAN BIRGAp WITH DOUBLE ORNAMENTvORNAMENTkCOLON",
   "mMMAkDIGIT EIGHTqFIVErOURqNINEqONEqSEVENrIXqTHREErWOqZEROlOUBLE BIRGA WITH ORNAMENTkELLIPSIS",
   "kFOUR DOTSlREE VARIATION SELECTOR FOUR.ONE.THREE:WOlULL STOPkINVERTED BIRGA",
   "y WITH DOUBLE ORNAMENTkLETTER AsLI GALI A#H#NUSVARA ONE!BALUDA!CA!DA$GALGA$MARU#DA!HALF U*YA!I",
   "#NVERTED UBADAMA!KA!NGA#NA!PA#HA!SSA!TA#HREE BALUDA#TA$HA!UBADAMA!VISARGA ONE!ZA#HAsNGrBArCHA",
   "u WITH TWO DOTStIrDArEsErFArGArHAArIrJArKAsHArLAsHArMAtNCHU ALI GALI BHA,CA.YA,DDHA.HA,GHA,JHA",
   ",LHA,NGA,SSA,TA.TA,ZA.HAyFAyIyKAyRAyZHArNArOsErPArQArRArSAsHAsIBE ANGwCHAwDAwEwFAwGAyAwHAyAwI",
   "xYwJAwKAwPAwRAAwSHAwTAxSAwUxEwZAxHArTAsODO ALI GALI TA*ZHAxNGwBAwCHAwDAxZAwEwGAyAwHAAwIwJAxIA",
   "wKAwLONG VOWEL SIGNwMAwNIAwOxEwPAwQAwTAxSAwUxEwWAwYAsSArUsErWArYArZAsHIsRAkMANCHU COMMA",
   "rFULL STOPkNIRUGUkROTATED BIRGAx WITH DOUBLE ORNAMENT%ORNAMENTkSIBE SYLLABLE BOUNDARY MARKER",
   "lWIRL BIRGAv WITH DOUBLE ORNAMENT#ORNAMENTkTODO SOFT HYPHENlRIPLE BIRGA WITH ORNAMENT",
   "lURNED SWIRL BIRGA WITH DOUBLE ORNAMENTkVOWEL SEPARATORdKEYg FACEdOGRAM FOR EARTHnYANGoINeRAIL",
   "eSTABLE SYMBOLcOD BUBBLEdN CAKEfVIEWING CEREMONYcSQUEfITOcTHER CHRISTMASdOR BOATgSCOOTER",
   "fIZED WHEELCHAIRfWAYcUNT FUJIfAINi BICYCLISTjCABLEWAYjRAILWAYdSEf FACEgTRAPdTHcVIE CAMERAcYAI",
   "bRO DANDAfIGIT EIGHTkFIVElOURkNINEkONEkSEVENlIXkTHREElWOkZEROfOUBLE DANDAeLETTER AlBAlCHUlDAnI",
   "lEmAlHAInOlKEAAEmHAImOlLAnNlMAEMmIMlNGImINlOmLmOlPAmHIlRImOlSHIlTAmEKmHEAlWAlYO",
   "bUCH GREATER-THANfLESS-THANcLTANI LETTER ApBAqHApCAqHApDAqDArDArHAqHApEpGAqHApHApIpJAqJApKAqHA",
   "pLApMApNAqNAqYApPAqHApRAqHAqRApSApTAqHAqTArHApUpVApYAiSECTION MARKeIMAPfPLE MUSICAL NOTES",
   "hICATION SIGNt IN DOUBLE CIRCLExLEFT HALF CIRCLExRIGHT HALF CIRCLExTRIANGLEuWITH DOT ABOVE",
   "zUNDERBARpXfSETi MULTIPLICATIONjUNIONcSHROOMdIC FLAT SIGNgNATURAL SIGNgSHARP SIGNfAL KEYBOARD",
   "q WITH JACKSiNOTEiSCOREjYMBOL ARPEGGIATO DOWN!UPpBEGIN BEAMvPHRASEvSLURvTIEqRACEtKETrEATH MARK",
   "sVEtISv RESTpC CLEFqAESURAqIRCLE X NOTEHEADqLIMACUSsVISrUSTER NOTEHEAD BLACK+WHITEqODA",
   "rMBINING ACCENT*-STACCATO!UGMENTATION DOTzBENDzDOIT#UBLE TONGUE#WN BOWzFLAG-1&2&3&4&5#IP",
   "zHARMONICzLOUREzMARCATO+-STACCATOzRIPzSMEAR!NAP PIZZICATO!PRECHGESANG STEM!TACCATISSIMO+O#EM",
   "zTENUTO!REMOLO-1,2,3#IPLE TONGUEzUP BOWsMON TIMEqRESCENDOrOIXqUT TIMEpDA CAPOrL SEGNOrMPt ALL",
   "rSHED BARLINEqECRESCENDOrGREE SLASHqOUBLE BARLINEwFLATwSHARPqRUM CLEF-1z2pEIGHTH NOTEwREST",
   "qND BEAMtOF STIMMEtPHRASEtSLURtTIEpF CLEFv OTTAVA ALTA%BASSAqERMATAw BELOWqINAL BARLINE",
   "sGERED TREMOLO-1+2+3rVE-LINE STAFFqLAT DOWNuUPqORTErUR-LINE STAFFuSTRING FRETBOARDqUSA BLACK",
   "uWHITEpG CLEFv OTTAVA ALTA%BASSAqLISSANDO DOWNzUPqRACE NOTE NO SLASH!SLASHrEGORIAN C CLEF",
   "zF CLEFpHALF NOTEuPEDAL MARKuRESTrUPTSTIMMEpINVERTED TURNpKIEVAN C CLEFwEIGHTH NOTE STEM DOWN",
   ">UPxND OF PIECEwFINAL NOTExLAT SIGNwHALF NOTEwQUARTER NOTE STEM DOWN?UPwRECITATIVE MARK",
   "wWHOLE NOTEqORONpLEFT REPEAT SIGNqONGAu IMPERFECTA RESTvPERFECTA RESTpMAXIMAqEZZOqINIMAv BLACK",
   "wRESTqOON NOTEHEAD BLACK%WHITEqULTI RESTuPLE MEASURE RESTpNATURAL DOWNxUPqEBENSTIMME",
   "qOTEHEAD BLACKqULL NOTEHEADpONE HUNDRED TWENTY-EIGHTH NOTE@RESTs-LINE STAFFqRNAMENT STROKE-1+0",
   "+1*2*3*4*5*6*7*8*9qTTAVA ALTAwBASSApPARENTHESIS NOTEHEADqEDAL MARKvUP MARKrS SUBPUNCTISqIANO",
   "qLUS NOTEHEADqODATUSrRRECTUSy FLEXUSpQUARTER NOTExRESTxTONE FLAT$SHARPrINDICESIMA ALTA$BASSA",
   "pREPEAT DOTSvED FIGURE-1*2*3rVERSE FINAL BARLINEqIGHT REPEAT SIGNrNFORZANDOpSCANDICUSy FLEXUS",
   "qEGNOrMIBREVIS BLACK!REST!WHITEtMINIMA BLACK!REST!WHITEqHARP DOWNvUPrORT BARLINEqINGLE BARLINE",
   "rX-LINE STAFFtSTRING FRETBOARDsTEENTH NOTEzRESTtY-FOURTH NOTE$RESTqORIqQUARE BwNOTEHEAD BLACK",
   "*WHITEqUBITOpTEMPUS IMPERFECTUM CUM PROLATIONE IMPERFECTA)E IMPERFECTA DIMINUTION-1",
   ")E IMPERFECTA DIMINUTION-2)E IMPERFECTA DIMINUTION-3)E PERFECTA",
   "wPERFECTUM CUM PROLATIONE IMPERFECTA)PERFECTA)PERFECTA DIMINUTION-1qHIRTY-SECOND NOTE%REST",
   "rREE-LINE STAFFqORCULUSx RESUPINUSqRrIANGLE NOTEHEAD DOWN BLACK=WHITE,LEFT BLACK=WHITE",
   ",RIGHT BLACK>WHITE,UP BLACK;RIGHT BLACK^WHITE;WHITEx-ROUND NOTEHEAD DOWN BLACK|WHITEqURN",
   "t SLASHuUPqWO-LINE STAFFpVIRGAqOID NOTEHEADpWHOLE NOTEvRESTqITH FINGERNAILSpX NOTEHEADpZbVSbW",
   "bYANMAR CONSONANT SIGN MEDIAL HA&RA&WA&YAyON MEDIAL LA.MA.NAxSHAN MEDIAL WAiDIGIT EIGHToFIVE",
   "pOURoNINEoONEoSEVENpIXoTHREEpWOoZEROiLETTER AqITON RAqUpBAqHApCAqHApDAqDArHAqHApE",
   "qASTERN PWO KAREN GHWA,NNA,YWApGAqHAqREAT SApHApIqIpJAqHApKAqHAsMTI CAxHAwDDAyHAxHAwFAwGAwHA",
   "xHAwJAxHAwLLAwNAxYAwRAwSAwTTAyHAwXAwZApLAqLApMAqON BBAvEtEtJHAtNGApNAqGAqNArYAqYApOpPAqHApRA",
   "qUMAI PALAUNG FApSAqGAW KAREN SHAqHAsN AuBAvHAuCAvHAuDAuFAuGAvHAuHAuJHAuKAvHAuNAvNAvYAuPHAuTHA",
   "uZArWE PALAUNG CHA$SHAqSApTArI LAING BA!HAzDA!DA#HA!HAzFAzGA!HAzJA!HAzLLAzNNA!YAqHAqTArHApUqU",
   "pVOCALIC LyLxRyRpWAqESTERN PWO KAREN PWA,THApYAjOGOGRAM KHAMTI HMyOAYyQN",
   "iMODIFIER LETTER KHAMTI REDUPLICATIONySHAN REDUPLICATIONiSHAN DIGIT EIGHTtFIVEuOURtNINEtONE",
   "tSEVENuIXtTHREEuWOtZEROjIGN ANUSVARAoSATnDOT BELOWnKHAMTI TONE-1z3nLITTLE SECTION",
   "nPAO KAREN TONEnRUMAI PALAUNG TONE-5nSECTIONoHAN COUNCIL EMPHATIC TONE!TONE-2*3sSAWsTONE-2x3x5",
   "x6nTAI LAING TONE-2$5nVIRAMApSARGAnWESTERN PWO KAREN TONE-1;2;3;4;5jYMBOL AFOREMENTIONED",
   "qITON EXCLAMATIONvONEvTWOpCOMPLETEDpGENITIVEpLOCATIVEpSHAN EXCLAMATIONuONE",
   "iTAI LAING DIGIT EIGHTyFIVEzOURyNINEyONEySEVENzIXyTHREEzWOyZEROjONE MARK SGAW KAREN HATHI",
   "%KE PHOiVOWEL SIGN AAuIvTON A!ItEu ABOVEtGEBA KAREN ItIuItKAYAH EEzOEzUtMON IIxOtSGAW KAREN EU",
   "uHAN AAyEz ABOVEyFINAL YtTALL AAtUuUtVOCALIC L$L#R$RtWESTERN PWO KAREN EU<UE",
   "aN-ARY CIRCLED DOT OPERATORoPLUS OPERATORoTIMES OPERATORhOPRODUCTgINTERSECTIONgLOGICAL ANDoOR",
   "gPRODUCTgSQUARE INTERSECTION OPERATORnUNION OPERATORhUMMATIONgTIMES OPERATORgUNION",
   "l OPERATOR WITH DOT!PLUSgWHITE VERTICAL BARbABATAEAN CRUCIFORM NUMBER FOURkLETTER ALEPHsYIN",
   "rBETHrDALETHrFINAL ALEPHxBETHxHExKAPHxLAMEDHxMEMxNUNxSHINxYODHrGIMELrHEtTHrKAPHrLAMEDHrMEMrNUN",
   "rPErQOPHrRESHrSADHEtMEKHsHINrTAWsETHrWAWrYODHrZAYINkNUMBER FIVEsOURrONEu HUNDREDrTENsHREE",
   "sWENTYtOdLAcIL POLISHdRA SIGNcKcME BADGEcNDeINAGARI HEADSTROKEmLETTER AuAuIuUtBAuHAtCAuHAtDA",
   "uDAvHAuHAtEtGAuHAtHAtIuItJAuHAtKAuHAtLAuLAtMAtNAuGAuNAuYAtOtPAuHAtRAuRAtSAuHAuSAtTAuHAuTAvHAtU",
   "uUtVAuOCALIC R$RtYAmSIGN ANUSVARAsVAGRAHArSIDDHAMrVIRAMAtSARGAmVOWEL SIGN AAyIyUxExIyIxO",
   "xPRISHTHAMATRA ExUyUxVOCALIC R+RcRROW NO-BREAK SPACEcTIONAL DIGIT SHAPESjPARKcUSEATED FACE",
   "cZAR AMULETbBHcSPbECKTIEcGATED DOUBLE VERTICAL BAR DOUBLE RIGHT TURNSTILEfIVE ACKNOWLEDGE",
   "jCIRCLED DIGIT ZEROrLATIN CAPITAL LETTER A=B=C=D=E=F=G=H=I=J=K=L=M=N=O=P=Q=R=S=T=U=V=W=X=Y=Z",
   "rNUMBER EIGHTEENzLEVENyFIFTEENzOURTEENyNINETEENySEVENTEENzIXTEENyTHIRTEENzWELVE#NTYrSQUARE",
   "rTRIANGLEjDIAGONAL CROSSsDIAMONDsMIDDLE RIGHT TO LOWER CENTREjSQUARED ABrCROSS MARKrIC",
   "rLATIN CAPITAL LETTER A=B=C=D=E=F=G=H=I=J=K=L=M=N=O=P=Q=R=S=T=U=V=W=X=Y=ZrPArQUESTION MARKrSA",
   "rWCcITHER A SUBSET OF NOR EQUAL TOmPERSET OF NOR EQUAL TOjPPROXIMATELY NOR ACTUALLY EQUAL TO",
   "iGREATER-THAN NOR EQUAL TO$IVALENT TOzLESS-THANiLESS-THAN NOR EQUAL TOzIVALENT TOwGREATER-THAN",
   "cLcPTUNEh FORM TWOcRD FACEcSSUSdT WITH EGGSeING DOLLScUTEReRAL CHESS BISHOP",
   "u ROTATED NINETY DEGREES%TWO HUNDRED SEVENTY DEGREESoEQUIHOPPERy ROTATED NINETY DEGREESoKING",
   "s ROTATED NINETY DEGREES#TWO HUNDRED SEVENTY DEGREESpNIGHTu ROTATED FORTY-FIVE DEGREES",
   "%NINETY DEGREES%ONE HUNDRED THIRTY-FIVE DEGREES%THREE HUNDRED FIFTEEN DEGREES",
   "&WO HUNDRED SEVENTY DEGREES@TWENTY-FIVE DEGREESoPAWNs ROTATED NINETY DEGREES",
   "#TWO HUNDRED SEVENTY DEGREESoQUEENt ROTATED NINETY DEGREES$TWO HUNDRED SEVENTY DEGREESoROOK",
   "s ROTATED NINETY DEGREES#TWO HUNDRED SEVENTY DEGREESoTURNED BISHOPvKINGwNIGHTvPAWNvQUEENvROOK",
   "iFACEcW LINEeMOON SYMBOLjWITH FACEeSHEQEL SIGNeTAI LUE DIGIT EIGHTsFIVEtOURsNINEsONEsSEVENtIX",
   "sTHREEtWOsZEROmLETTER FINAL BzDzKzMzN!GzVtHIGH BAyDAyFAyHAyKAzVAyLAyMAyNAzGAyPAzHAyQAySAzUAyTA",
   "zHAzSAyVAyXAzVAyYAtLOW BAxDAxFAxHAxKAyVAxLAxMAxNAyGAxPAyHAxQAxSAyUAxTAyHAySAxVAxXAyVAxYA",
   "mSIGN LAEuVmTHAM DIGIT ONEnONE MARK-1w2mVOWEL SIGN AAzYyEyYxExIIyYxOyAzYyYxUyEzYyUyY",
   "xVOWEL SHORTENERdA ABBREVIATION SIGNfCOMMAfDANDAgIGIT EIGHTlFIVEmOURlNINElONElSEVENmIXlTHREE",
   "mWOlZEROgOUBLE COMMAmDANDAfGAP FILLERfINSERTION SIGNfLETTER AnAnInUmBAnHAmCAnHAmDAnDAoHAnHAmE",
   "mGAnHAmHAmInImJAnHAmKAnHAmLAnHAmMAnHAmNAnGAoHAnHAnNAnYAoHAmOmPAnHAmRAnHAmSAnHAnSAmTAnHAnTAoHA",
   "mUnUmVEDIC ANUSVARAnOCALIC LvLuRvRmWAmYAfOMfPLACEHOLDER MARKfSANDHI MARKgIDDHIhGN ANUSVARA",
   "lVAGRAHAkCANDRABINDUkFINAL ANUSVARAkJIHVAMULIYAkNUKTAkUPADHMANIYAkVIRAMAmSARGAfVOWEL SIGN AArI",
   "rUqEqIrIqOqUrUqVOCALIC LzLyRzRdLINE LEFTiRIGHTdSPAPERcXT LINEfPAGEbIGHT WITH STARScNJA",
   "bKO COMBINING DOUBLE DOT ABOVEoLONG DESCENDING TONEtHIGH TONEtLOW TONEtRISING TONE",
   "oNASALIZATION MARKoSHORT HIGH TONEuLOW TONEuRISING TONEhMAeDANTAYALANfIGIT EIGHTkFIVElOURkNINE",
   "kONEkSEVENlIXkTHREElWOkZEROfOROME SIGNeEXCLAMATION MARKeHIGH TONE APOSTROPHEeLAJANYALAN",
   "fETTER AlBAlCHAlDAnGBASINNAlEmElFAlGBAlHAlIlJAmONA CHAqJAqRAlKAlLAlMAlNmAn WOLOSOmYAo WOLOSOlO",
   "mOlPAlRAmRAlSAlTAlUlWAlYAfOW TONE APOSTROPHEeSYMBOL GBAKURUNENlOO DENNENeTAMAN SIGNbLbNBSP",
   "bO BICYCLESeREAK HEREdENTRYi SIGNdMOBILE PHONESdONE UNDER EIGHTEEN SYMBOLdPEDESTRIANSeIRACY",
   "dSMOKING SYMBOLc-BREAK SPACEcMINAL DIGIT SHAPESeSMA SIGNcN-BREAKING HYPHEN",
   "ePOTABLE WATER SYMBOLdFORKINGcRdDIC MARK SIGNdMAL SUBGROUP OFs OR EQUAL TO",
   "dTH EAST AND SOUTH WEST ARROWmRROWq AND SOUTH EAST ARROWrCROSSING NORTH WEST ARROW",
   "!SOUTH EAST ARROWrWITH HOOKlBLACK ARROWlDOUBLE ARROWlPOINTING BUDuLEAFuVINE LEAF",
   "lSANS-SERIF ARROWlTRIANGLE-HEADED ARROW+ TO BARlWHITE ARROWgINDIC FRACTION ONE EIGHTHzHALF",
   "zQUARTERzSIXTEENTHvTHREE QUARTERS#SIXTEENTHSmPLACEHOLDER MARKmQUANTITY MARKpRTER MARK",
   "mRUPEE MARKgWEST AND SOUTH EAST ARROWmRROWq AND NORTH EAST ARROWrCROSSING NORTH EAST ARROW",
   "rTO CORNERuLONG BARrWITH HOOKlBLACK ARROWlDOUBLE ARROWlPOINTING BUDuLEAFuVINE LEAF",
   "lSANS-SERIF ARROWlTRIANGLE-HEADED ARROW+ TO BARlWHITE ARROWfEAST-POINTING AIRPLANEcSE",
   "cT A SUBSET OFiPERSET OFfLMOST EQUAL TOfN ELEMENT OFfSYMPTOTICALLY EQUAL TOeCHECK MARK",
   "eEQUAL TOhIVALENT TOeGREATER-THANeIDENTICAL TOeLESS-THANeNORMAL SUBGROUP OFw OR EQUAL TO",
   "ePARALLEL TOeSIGNfQUARE IMAGE OF OR EQUAL TOlORIGINAL OF OR EQUAL TOeTILDEfRUE",
   "dCHED LEFT SEMICIRCLE WITH THREE DOTSjOWER RIGHT-SHADOWED WHITE RIGHTWARDS ARROW",
   "iRIGHT SEMICIRCLE WITH THREE DOTSiUPPER RIGHT-SHADOWED WHITE RIGHTWARDS ARROWdEe PADhGEeBOOK",
   "i WITH DECORATIVE COVERbULdLcMBER EIGHTEEN FULL STOPiLEVEN FULL STOPhFIFTEEN FULL STOP",
   "iOURTEEN FULL STOPhNINETEEN FULL STOPhSEVENTEEN FULL STOPiIGNjXTEEN FULL STOPhTEN FULL STOP",
   "iHIRTEEN FULL STOPiWELVE FULL STOPkNTY FULL STOPdERO SIGNcSHU CHARACTER-1B170u1u2u3u4u5u6u7u8",
   "u9uAuBuCuDuEuFt80u1u2u3u4u5u6u7u8u9uAuBuCuDuEuFt90u1u2u3u4u5u6u7u8u9uAuBuCuDuEuFtA0u1u2u3u4u5",
   "u6u7u8u9uAuBuCuDuEuFtB0u1u2u3u4u5u6u7u8u9uAuBuCuDuEuFtC0u1u2u3u4u5u6u7u8u9uAuBuCuDuEuFtD0u1u2",
   "u3u4u5u6u7u8u9uAuBuCuDuEuFtE0u1u2u3u4u5u6u7u8u9uAuBuCuDuEuFtF0u1u2u3u4u5u6u7u8u9uAuBuCuDuEuF",
   "s200u1u2u3u4u5u6u7u8u9uAuBuCuDuEuFt10u1u2u3u4u5u6u7u8u9uAuBuCuDuEuFt20u1u2u3u4u5u6u7u8u9uAuBuC",
   "uDuEuFt30u1u2u3u4u5u6u7u8u9uAuBuCuDuEuFt40u1u2u3u4u5u6u7u8u9uAuBuCuDuEuFt50u1u2u3u4u5u6u7u8u9",
   "uAuBuCuDuEuFt60u1u2u3u4u5u6u7u8u9uAuBuCuDuEuFt70u1u2u3u4u5u6u7u8u9uAuBuCuDuEuFt80u1u2u3u4u5u6",
   "u7u8u9uAuBuCuDuEuFt90u1u2u3u4u5u6u7u8u9uAuBuCuDuEuFtA0u1u2u3u4u5u6u7u8u9uAuBuCuDuEuFtB0u1u2u3",
   "u4u5u6u7u8u9uAuBuCuDuEuFtC0u1u2u3u4u5u6u7u8u9uAuBuCuDuEuFtD0u1u2u3u4u5u6u7u8u9uAuBuCuDuEuFtE0",
   "u1u2u3u4u5u6u7u8u9uAuBuCuDuEuFtF0u1u2u3u4u5u6u7u8u9uAuBgITERATION MARKcT AND BOLT",
   "bYIAKENG PUACHUE HMONG CIRCLED CAxDIGIT EIGHT%FIVE&OUR%NINE%ONE%SEVEN&IX%THREE&WO%ZERO",
   "xLETTER A*A&CA&DA*LA&E*E&FA&GA&HA+H&I&KA&LA&MA*LA&NA*CA*KA*PA+LA*QA*RA*TA+SA+XA*YA&O*O&PA*LA",
   "&QA&RA*RA&SA&TA*SA*XA&U&VA&W&XA*YA&YA&ZAyOGOGRAM NYAJxSIGN FOR ANIMAL+INVERTEBRATE+LOCATION",
   "+PERSON+THING$XW XWyYLLABLE LENGTHENERxTONE-B$D$G$J$M$S$VaOBJECT REPLACEMENT CHARACTER",
   "cLIQUE ANGLE OPENING DOWNwUPiHYPHENcSERVER EYE SYMBOLbCR AMOUNT OF CHECKeBELT BUCKLEfOW TIE",
   "fRANCH BANK IDENTIFICATIONeCHAIRfUSTOMER ACCOUNT NUMBEReDASHfOUBLE BACKSLASHeFORKeHOOK",
   "eINVERTED FORKcTAGONAL SIGNdOPUSbDENbFFICE BUILDINGbGHAM FEATHER MARKgLETTER AILMnBEITHnCEIRT",
   "oOLLnDAIRnEABHADHpDHADHpMHANCHOLLnFEARNnGORTnIFINoODHADHnLUISnMUINnNGEADALoIONnONNoRnPEITH",
   "nRUISnSAILoTRAIFnTINNEnUATHoILLEANNoRgREVERSED FEATHER MARKgSPACE MARKcONEKbHM SIGNbIL DRUM",
   "bK HAND SIGNbL CHIKI AHADjDIGIT EIGHTpFIVEqOURpNINEpONEpSEVENqIXpTHREEqWOpZERO",
   "jGAAHLAA TTUDDAAGjLETTER AAJsKsMsWrGrLrNGrTqEDDrNrPrRRqIHrNYrRrSqLAsArErIrOrUqOBrHrTTrVqUCrD",
   "rNNrYjMU TTUDDAGl-GAAHLAA TTUDDAAGjPHAARKAAkUNCTUATION DOUBLE MUCAADvMUCAADjRELAA",
   "cD CHINESE HOOK MARKmITERATION MARKeHUNGARIAN CAPITAL LETTER A&A&K&MB&ND%CLOSE E%E&B&C*H*S&D&E",
   "&F&G*Y&H&J&K&L*Y&M*P&N*C*T+-SHAPED SIGN*Y&P&R&S*Z&T*Y&V&Z*S%I&I%NIKOLSBURG OE?UE%O&EE&O",
   "%RUDIMENTA OE>UE%SHORT ER%U&NK&S&UoNUMBER FIFTYxVEvONEy HUNDREDzTHOUSANDvTENoSMALL LETTER A$A",
   "$K$MB$ND#CLOSE E#E$B$C%H%S$D$E$F$G%Y$H$J$K$L%Y$M%P$N%C%T&-SHAPED SIGN%Y$P$R$S%Z$T%Y$V$Z%S#I$I",
   "#NIKOLSBURG OE=UE#O$EE$O#RUDIMENTA OE<UE#SHORT ER#U$NK$S$UeITALIC LETTER AsBEsCHEsDEsEtFtKStL",
   "tMtNtRuStSuHuSsHEsItIsKAtEtHEtUsNORTHERN TSEsOsPEtHEsSHEtOUTHERN TSEsTEtHEsUtUsVEsYEsZE",
   "lNUMERAL FIFTYvVEtONEtTENeKEYeNORTH ARABIAN LETTER AIN!LEFzBEHzDAD#LzES-1$2$3zFEHzGEEM!HAIN",
   "zHAH!EHzKAF!HAHzLAMzMEEMzNOONzQAFzREHzSADzTAH!EH!HAL#EHzWAWzYEHzZAH#INsNUMBER ONEzTEN!WENTY",
   "ePERMIC LETTER ANsBURsCHERYsDOItZHOIuITAsEtFsGAIsHAsItAtEsKOKEsLEIsMENOEsNENOEsOtOsPEEIsREI",
   "sSHCHOOIuOOItIIsTAItSIUsUsVERtOOIsYAuTtERvIvUtRYtUsZATAtHOIhSIAN NUMBER HUNDREDtONEtTENuWENTY",
   "vOmSIGN AsURAMAZDAA#-2#HArBAtGAsUUMISHrCArDAtHYAAUSH!-2sIsUrFArGAsUrHArIrJAsIrKAsUrLArMAsIsU",
   "rNAsUrPArRAsUrSAsHAsSArTAsHAsUrUrVAsIrXAsSHAAYATHIYArYArZAmWORD DIVIDERiONAL COMPUTER",
   "eSOGDIAN FRACTION ONE HALFmLETTER ALEPHvTERNATE AYINuYINtBETHtFINAL ALEPHzBETHzHEzNUN",
   "$ WITH VERTICAL TAILzSADHE& WITH VERTICAL TAILzTAW$ WITH VERTICAL TAILtGIMELtHEvTHtKAPHtLAMEDH",
   "tMEMtNUNtPEtRESH-AYIN-DALETHtSADHEvMEKHuHINtTAWtWAWtYODHtZAYINnIGATURE AYIN-DALETHmNUMBER FIVE",
   "uOURtONEw HUNDREDtTENuHIRTYvREEuWENTYvOgUTH ARABIAN LETTER ALEF!YNzBETHzDALETH!HADHE$LETHzFE",
   "zGHAYN!IMELzHE#THzKAPH!HETHzLAMEDHzMEMzNUNzQOPHzRESHzSADHE#MEKH#T!HINzTAW!ETH!HAW#ETHzWAWzYODH",
   "zZAYNsNUMBER FIFTYzONEvERIC INDICATOReTURKIC LETTER ORKHON A!B!D!EB#D#G#K#L#N#R#S#T#Y!G!L!N!Q",
   "!R!S#H!T!YzBASHzEC!LT!M!NC#G#T#Y!P!SH!ZzI!C!QzO!E#K!P!Q!TsYENISEI A#B#D#E$B$G$K$N%G$T$Y#G#L#NG",
   "#Q#R#SH#T#Y!E#C#NC$T$Y#SH#Z!I#Q!OE$K#QeUYGHUR COMBINING DOT ABOVEzBELOWvTWO DOTS ABOVE&BELOW",
   "lLETTER ALEPHsBETHsFINAL HETHsGIMEL-HETHsKAPHsLAMEDHtESHsMEMsNUNsPEsRESHsSADHEuMEKHtHINsTAW",
   "sWAWsYODHsZAYINlPUNCTUATION BARxFOUR DOTSxTWO BARS#DOTSdER ADULTgMANgWOMANcIVEbM SYMBOL",
   "bN WITH EXCLAMATION MARK WITH LEFT RIGHT ARROW ABOVEcCOMING AUTOMOBILEjBUSjFIRE ENGINE",
   "jPOLICE CARjTAXIcE BUTTON MOUSEeDOT LEADERiOVER TWO DOTS PUNCTUATIONd-PIECE SWIMSUITcION",
   "bPEN BOOKhXfCENTRE ASTERISKmBLACK STARmCROSSmTEARDROP-SPOKED ASTERISKfFILE FOLDERgOLDER",
   "fHANDS SIGNfLOCKfMAILBOX WITH LOWERED FLAGsRAISED FLAGfSUBSEThPERSET",
   "e-CIRCUIT-OUTPUT H-TYPE SYMBOLuL-TYPE SYMBOLfOUTLINED RIGHTWARDS ARROWdRATING SYSTEM COMMAND",
   "cHIUCHUScPOSITIONcTICAL DISCm ICONeON KEYbR WITH DOT INSIDEcANGE BOOKhHEARTfUTANcIGINAL OF",
   "dYA AI LENGTH MARKhU LENGTH MARKgDIGIT EIGHTmFIVEnOURmNINEmONEmSEVENnIXmTHREEnWOmZERO",
   "gFRACTION ONE EIGHTHtHALFtQUARTERtSIXTEENTHpTHREE QUARTERSvSIXTEENTHSgISSHARgLETTER AoAoIoUnBA",
   "oHAnCAoHAnDAoDApHAoHAnEnGAoHAnHAnIoInJAoHAnKAoHAnLAoLAnMAnNAoGAoNAoYAnOnPAoHAnRAoHAoRAnSAoHA",
   "oSAnTAoHAoTApHAnUoUnVAoOCALIC LwLvRwRnWAnYAoYAgSIGN ANUSVARAmVAGRAHAlCANDRABINDUlNUKTA",
   "lOVERLINElVIRAMAnSARGAgVOWEL SIGN AAsIsUrErIsIrOrUsUrVOCALIC L!LzR!RcNATE LEFT PARENTHESIS",
   "hRIGHT PARENTHESIScTHODOX CROSSbSAGE CAPITAL LETTER AwHwIxNvBRAvCHAvDHAvEwHCHAxKAxPAxTAySAwIN",
   "vGHAvHAwYAvIvKAwHAwYAvLAvMAvNAvOwINvPAvSAwHAvTAwSAxHAvUvWAvZAwHAgSMALL LETTER AuHuIvNtBRAtCHA",
   "tDHAtEuHCHAvKAvPAvTAwSAuINtGHAtHAuYAtItKAuHAuYAtLAtMAtNAtOuINtPAtSAuHAtTAuSAvHAtUtWAtZAuHAcC",
   "cMANYA DIGIT EIGHToFIVEpOURoNINEoONEoSEVENpIXoTHREEpWOoZEROiLETTER AqAqLEFpBApCAYNpDEELqHApEqE",
   "pFApGApHApIpJApKAAFqHApLAANpMIINpNUUNpOqOpQAAFpRApSAqHIINpTApUpWAWpXApYAbTTER",
   "dOMAN SIYAQ ALTERNATE NUMBER EIGHT*FIVE+OUR: HUNDRED*NINE*SEVEN+IX. HUNDRED*TEN. THOUSAND+HREE",
   "+WO. THOUSANDoFRACTION ONE HALF#SIXTHoMARRATANoNUMBER EIGHT! HUNDRED#THOUSAND!Y# THOUSAND",
   "vFIFTY! THOUSANDxVEz HUNDRED!THOUSANDwORTY! THOUSANDxURz HUNDRED!THOUSANDvNINEz HUNDRED",
   "!THOUSANDzTY# THOUSANDvONEy HUNDREDzTHOUSANDvSEVEN! HUNDRED#THOUSAND!TY$ THOUSANDwIXy HUNDRED",
   "zTHOUSANDyTY! THOUSANDvTENy THOUSANDwHIRTY# THOUSANDxREE! HUNDRED#THOUSANDwWENTY# THOUSANDxO",
   "y HUNDREDzTHOUSANDbUNCE SIGNcTBOX TRAYdLINED BLACK STARjGREEK CROSSjLATIN CROSSjWHITE STAR",
   "bVERHEATED FACEeLAPhPING BLACK SQUARESmWHITE AND BLACK SQUARESsSQUARESfINEbWLbXbYSTERaPACKAGE",
   "cDdDING CHARACTERcGEe FACING UPfWITH CIRCLED TEXTlURLeReSdODAcHAWH HMONG CLAN SIGN FAJxHAMzWJ",
   "xKHAByOOyWMxLAUJyISxMUASxPHABxTHOJySABzHEEJzWBxVAJyWJxXYOOJxYAJyEEGoONSONANT AUxCAUyHAUxHAU",
   "yLAUyNAUxLAUxMAUxNAUyCHAUyKAUyLAUyTHAUzSAUxPLHAUxQHAUxRAUxVAUxXAUxYAUnDIGIT EIGHTtFIVEuOUR",
   "tNINEtONEtSEVENuIXtTHREEuWOtZEROnMARK CIM HOMwKESxHAVwSOxUAMwTAUMxUBnNUMBER HUNDRED MILLIONS#S",
   "uMILLIONSuTEN BILLIONSyTHOUSANDSxSvRILLIONSnSIGN AVsCIM CHEEMxUAM TSHOOJwHAIS LUS NTOG NTOG",
   "wNRES TOSwPUB DAWBwTSOV ROGxXWV! CHWVsHLItNUBsIB YAMsLOSsMEEJ SUABxTSEEBtUSsNQIGtTUJsTAU",
   "tHIRD-STAGE HLItXHEEJ CEEVsVOS FEEMwLUBwNRUAwSEEVwTHIAByOMxSHAB CEEBsXAUStIABtYEEM FAIByNTXIV",
   "yRHOyTOVuOOsZWJ THAJnVOWEL KAABwVvBvIBwVvUBwVvVvWBwVuEBvEBwVvVuIABwVvBvVuOBvOBwVvVuUABwVvBvV",
   "uWBvVcLLASdM BRANCHfDOWN HANDfTREEfUP HANDeS UP TOGETHEReYRENE LEFT-POINTING FLEURON",
   "mTTER ALEPHsYINrBETHrDALETHrFINAL NUNrGIMELrHEtTHrKAPHrLAMEDHrMEMrNUNrPErQOPHrRESHrSADHEtMEKH",
   "sHINrTAWsETHrWAWrYODHrZAYINkNUMBER FIVEsOURrONErTENsHREEsWENTYtOkRIGHT-POINTING FLEURONcNCAKES",
   "dDA FACEcPERCLIPcRACHUTEeGRAPH SEPARATORjOSjUS MARKeLLEL TOjWITH HORIZONTAL STROKE",
   "oTILDE OPERATORdENTHESIZED DIGIT EIGHTuFIVEvOURuNINEuONEuSEVENvIXuTHREEvWOoHANGUL CHIEUCH$ A",
   "wIEUC! A#UvHIEUH! AvIEUNG! AvKHIEUKH$ AwIYEOK# AvMIEUM! AvNIEUN! AvPHIEUPH$ AwIEUP! AvRIEUL! A",
   "vSIOSz AvTHIEUTH$ AwIKEUT# AoIDEOGRAPH ALLIANCEyCALLzONGRATULATIONyEARTHzIGHTzNTERPRISE",
   "yFESTIVALzINANCIAL!RE!VEzOURyHAVEyLABORyMETALzOONyNAMEzINEyONEyREACH!PRESENT!SOURCE#TySELF!VEN",
   "zIXzOCIETYzPECIALzTOCK!UDYzUN!PERVISEyTENzHREEzWOyWATERzOODoKOREAN CHARACTER O HU+JEON",
   "oLATIN CAPITAL LETTER A:B:C:D:E:F:G:H:I:J:K:L:M:N:O:P:Q:R:S:T:U:V:W:X:Y:ZuSMALL LETTER A,B,C,D",
   ",E,F,G,H,I,J,K,L,M,N,O,P,Q,R,S,T,U,V,W,X,Y,ZoNUMBER EIGHTEENwLEVENvFIFTEENwOURTEENvNINETEEN",
   "vSEVENTEENwIXTEENvTENwHIRTEENwWELVEyNTYdROTdT ALTERNATION MARKeIAL DIFFERENTIALiLINE BACKWARD",
   "nDOWNnFORWARDnUPhLY-RECYCLED PAPER SYMBOLeNERSHIP SIGNeY POPPERcSSED SYMBOLfNGER SHIP",
   "eIVE-PULL-DOWN-OUTPUT SYMBOLnUP-OUTPUT SYMBOLePORT CONTROLcU CIN HAU GLOTTAL STOPy FINAL",
   "zVARIANTmLETTER AtBAtCAuHAtDAtEtFAuINAL KzLzMzN!GzPzTzWzYtGAtHAtIuAtKAuHAtLAtMAtNAuGAtOtPAuHA",
   "tRAtSAtTAuHAtUuAtVAtZAnOW-FALLING TONE$ FINAL%LONG, FINALmMID-LEVEL TONE! FINAL#LONG FINAL",
   "mRISING TONEx FINALyLONG$ FINALmSANDHI GLOTTAL STOP* FINALtTONEx FINALyLONG$ FINALcW PRINTSbDF",
   "cIbEACE SYMBOLeHeOCKdNUTSdRcDESTRIANcN OVER STAMPED ENVELOPEdCILdGUINdSIVE FACEdTAGRAM",
   "cOPLE HUGGINGcR MILLE SIGNeSIGNeTEN THOUSAND SIGNdCENT SIGNdFORMING ARTSdMANENT PAPER SIGN",
   "dPENDICULARn WITH SdSEVERING FACEeON BOWING DEEPLYhCLIMBINGhDOING CARTWHEELhFROWNING",
   "hIN LOTUS POSITIONkSTEAMY ROOMhRAISING BOTH HANDS IN CELEBRATIONhWITH BALLnLOND HAIRmCROWN",
   "mFOLDED HANDSmHEADSCARFmPOUTING FACEgAL COMPUTERePECTIVEcSETA SIGNdO SIGNcTRI DISH",
   "bHAGS-PA DOUBLE HEAD MARKjLETTER ArLTERNATE YArSPIRATED FAqBAqCAsNDRABINDUrHAqDArDArZAqErEqFA",
   "qGArGAqHAqIqJAqKArHAqLAqMAqNArGArNArYAqOqPArHAqQAqRAqSArHArMALL AqTArHArSAsHArTAsHAqU",
   "qVOICED HAvLESS SHAqWAqXAqYAqZArHAjMARK DOUBLE SHADoSHADjSINGLE HEAD MARKkUBJOINED LETTER RA",
   "!WA!YAlPERFIXED LETTER RAdISTOS DISC SIGN ARROWtBEEwHIVEuOOMERANGvWuULLS LEGtCAPTIVE",
   "vRPENTRY PLANEvTuHILDuLUBuOLUMNvMBxINING OBLIQUE STROKEtDOLIUMvVEtEAGLEtFLUTEtGAUNTLETuRATER",
   "tHELMETuIDEuORNtLIDvLYtMANACLESvTTOCKtOX BACKtPAPYRUSuEDESTRIANuLANE TREEvUMED HEADtRAMuOSETTE",
   "tSAWuHIELDwPuLINGuMALL AXEuTRAINERtTATTOOED HEADuIARAuUNNYtVINEtWAVY BANDuOMAN",
   "cILIPPINE DOUBLE PUNCTUATIONlSINGLE PUNCTUATIONcOENICIAN LETTER AINtLFsBETsDELTsGAMLsHEuTsKAF",
   "sLAMDsMEMsNUNsPEsQOFsROSHsSADEtEMKtHINsTAUtETsWAUsYODsZAIlNUMBER ONEv HUNDREDsTENtHREEtWENTYuO",
   "lWORD SEPARATORdLUSbICKeUP TRUCKcEcGd FACEeNOSEcLCROW SIGNdE OF POOdLcNATAdCHED FINGERS",
   "fING HANDdE DECORATIONeAPPLEdWHEEL STARcSCESdTOLcTCHFORKj WITH TEE TOPbLACARD",
   "eE OF INTEREST SIGNjWORSHIPdNCK CONSTANTp OVER TWO PIdYGROUND SLIDEeING CARD ACE OF CLUBS",
   "uDIAMONDSuHEARTSuSPADESnBACKoLACK JOKERnEIGHT OF CLUBSwDIAMONDSwHEARTSwSPADESnFIVE OF CLUBS",
   "vDIAMONDSvHEARTSvSPADESoOOLpUR OF CLUBSvDIAMONDSvHEARTSvSPADESnJACK OF CLUBSvDIAMONDSvHEARTS",
   "vSPADESnKING OF CLUBSvDIAMONDSvHEARTSvSPADESoNIGHT OF CLUBSxDIAMONDSxHEARTSxSPADES",
   "nNINE OF CLUBSvDIAMONDSvHEARTSvSPADESnQUEEN OF CLUBSwDIAMONDSwHEARTSwSPADESnRED JOKER",
   "nSEVEN OF CLUBSwDIAMONDSwHEARTSwSPADESoIX OF CLUBSuDIAMONDSuHEARTSuSPADESnTEN OF CLUBS",
   "uDIAMONDSuHEARTSuSPADESoHREE OF CLUBSwDIAMONDSwHEARTSwSPADESoRUMP-1u0u1u2u3u4u5u6u7u8u9t2u0u1",
   "t3t4t5t6t7t8t9oWO OF CLUBSuDIAMONDSuHEARTSuSPADESnWHITE JOKERcDcUdNGERdS SIGN",
   "j ABOVE EQUALS SIGNkIN LEFT HALF CIRCLEnRIGHT HALF CIRCLEnTRIANGLEkWITH BLACK TRIANGLE",
   "pCIRCUMFLEX ACCENT ABOVEpDOT BELOWpSMALL CIRCLE ABOVEqUBSCRIPT TWOpTILDE ABOVEvBELOW",
   "e-MINUS SIGNdTOf FORM FIVEmOURlTHREEmWObMbOCKET CALCULATORcLICE CARkS REVOLVING LIGHThOFFICER",
   "cODLEcP DIRECTIONAL FORMATTINGqISOLATEdCORNcRTABLE STEREOcSEIDONdITION INDICATORdTAL HORNhMARK",
   "l FACEeBOXcT OF FOODdABLE WATER SYMBOLeTOdTED PLANTcUCHdLTRY LEGdND SIGNdRING LIQUID",
   "dTING CAT FACEiFACEcWER ON SYMBOLi-OFF SYMBOLgSLEEP SYMBOLhYMBOLbRAYER BEADScECEDES",
   "i ABOVE ALMOST EQUAL TOpEQUALS SIGNpNOT ALMOST EQUAL TOtEQUAL TOpSINGLE-LINE EQUALS SIGN",
   "#NOT EQUAL TOjBUT NOT EQUIVALENT TOjOR EQUAL TOpIVALENT TOjUNDER RELATIONdGNANT MANjPERSON",
   "jWOMANdSCRIPTION TAKEeENTATION FORM FOR VERTICAL COLON,MMA*EM DASH+N DASH+XCLAMATION MARK",
   "*HORIZONTAL ELLIPSIS*IDEOGRAPHIC COMMA_FULL STOP*LEFT ANGLE BRACKET;BLACK LENTICULAR BRACKET",
   ";CORNER BRACKET<URLY BRACKET;DOUBLE ANGLE BRACKET;PARENTHESIS;SQUARE BRACKET",
   ";TORTOISE SHELL BRACKET;WHITE CORNER BRACKET^LENTICULAR BRACKET+OW LINE*QUESTION MARK",
   "*RIGHT ANGLE BRACKET<BLACK LENTICULAR BRACKET<CORNER BRACKET=URLY BRACKET<DOUBLE ANGLE BRACKET",
   "<PARENTHESIS<SQUARE BRACKET<TORTOISE SHELL BRACKET<WHITE CORNER BRACKET_LENTICULAR BRACKET",
   ")ICULAR BRAKCET*SEMICOLON*TWO DOT LEADER*WAVY LOW LINEdTZELdVIOUS PAGEcIMEdNCEgSS",
   "eT SCREEN SYMBOLfERh ICONdVACY MESSAGEfTE USE ONEmTWOl-1m2cOBING CANEdHIBITED SIGNdJECTIVE",
   "dPERTY LINEeORTIONkAL TOdSERPINAbSALTER PAHLAVI FOUR DOTS WITH CROSS*DOTqLETTER ALEPHxBETH",
   "xDALETHxGIMELxHEzTHxKAPHxLAMEDHxMEM-QOPHxNUNxPExSADHEzMEKHyHINxTAWxWAW-AYIN-RESHxYODHxZAYIN",
   "qNUMBER FOURxONE! HUNDREDxTENyHREEyWENTYzOqSECTION MARKqTURNED SECTION MARKbU1c2",
   "cBLIC ADDRESS LOUDSPEAKERcNCTUATION SPACEgS ELEVATUS MARKcRPLE HEARTdSEcSHPIN",
   "cT LITTER IN ITS PLACE SYMBOLaQUADRANT LOWER LEFTpRIGHTjUPPER LEFT",
   "t AND LOWER LEFT AND LOWER RIGHT&RIGHTyUPPER RIGHT AND LOWER LEFT(RIGHTpRIGHTu AND LOWER LEFT",
   ": AND LOWER RIGHTfUPLE INTEGRAL OPERATORkPRIMEdRTER NOTEdTERNION INTEGRAL OPERATOR",
   "cESTION EXCLAMATION MARKjMARKiED EQUAL TOcINCUNXcOTATION MARKaRABBITg FACEcCCOONdING CAR",
   "hMOTORCYCLEcDICAL SYMBOL BOTTOMeOf BUTTONfACTIVE SIGNcILWAY CARiTRACKdNeBOWdSED BACK OF HAND",
   "hCOMMAhDOTkTED INTERPOLATION MARKERhFISThHANDl WITH FINGERS SPLAYED",
   "rPART BETWEEN MIDDLE AND RING FINGERShINTERPOLATION MARKERhMC SIGNiD SIGNiR SIGNhSQUAREcMcTdIO",
   "cZORbECEIPTdORD SEPARATORdREATIONAL VEHICLEdYCLED PAPER SYMBOL",
   "gING SYMBOL FOR GENERIC MATERIALSvTYPE-1 PLASTICS!2 PLASTICS!3 PLASTICS!4 PLASTICS!5 PLASTICS",
   "!6 PLASTICS!7 PLASTICScD APPLEeGIFT ENVELOPEcFERENCE MARKcGIONAL INDICATOR SYMBOL LETTER A,B,C",
   ",D,E,F,G,H,I,J,K,L,M,N,O,P,Q,R,S,T,U,V,W,X,Y,ZeSTERED SIGNcJANG CONSONANT SIGN HwNxGwR",
   "hLETTER AoBAoCAoDAoGAoHAoJAoKAoLAoMApBAoNApDApGAqGApYAqJAoPAoRAoSAoTAoWAoYAhSECTION MARK",
   "hVIRAMAiOWEL SIGN AItUsEtAtUsIsOsUcLIEVED FACEcMINDER RIBBONcPLACEMENT CHARACTERcSPONSE",
   "dTRICTED LEFT ENTRY-1w2fOOMcTURN LEFThRIGHThSYMBOLcVERSE CHECKER BOARDiINDEX",
   "iLIGHT FOUR POINTED PINWHEEL STARkNE FEEDiSOLIDUSp OPERATORqPRECEDING SUBSET",
   "qWITH HORIZONTAL STROKEiTILDE OPERATOR ABOVE LEFTWARDS ARROW%RIGHTWARDS ARROWhD ANGLE",
   "o WITH UNDERBARjCOMMAjDOUBLE PRIMEv QUOTATION MARKqSTROKE NOT SIGNjEMPTY SET",
   "jFORKED PARAGRAPHOSjHAND WITH MIDDLE FINGER EXTENDEDjNOT SIGNjPILCROW SIGNkRIMEjQUESTION MARK",
   "jRAISED HAND WITH FINGERS SPLAYEDkIGHT ANGLEkOTATED FLORAL HEART BULLETjSANS-SERIF CAPITAL L",
   "kEMICOLONjTHUMBS DOWN SIGNqUP SIGNkILDEo EQUALSkRIPLE PRIMEjVICTORY HANDdOLVING HEARTS",
   "bHINOCEROSbIcAL SIGNcBBONg ARROW DOWN LEFTsRIGHTnLEFT DOWNsUPnRIGHT DOWNtUPnUP LEFTqRIGHT",
   "cCE BALLfCRACKERcFLEcGHT AND LOWER ONE EIGHTH BLOCKkUPPER ONE EIGHTH BLOCKiGER BUBBLEjLE",
   "l BRACKETt WITH DOTmDOTTED SUBSTITUTION MARKERmSUBSTITUTION MARKERmVARIANT WITH SQUARE",
   "mWITH ARCrDOWNWARDS ZIGZAG ARROWhRC GREATER-THAN BRACKETiROW WITH CIRCLED PLUSrSMALL CIRCLE",
   "gBLACK LENTICULAR BRACKETmTORTOISE SHELL BRACKETgCEILINGhORNER BRACKEThURLY BRACKET",
   "t LOWER HOOKuMIDDLE PIECEuUPPER HOOKgDOTTED SUBSTITUTION BRACKETiUBLE ANGLE BRACKET",
   "oRROW WITH ROUNDED HEADnPARENTHESISnQUOTATION MARKnWIGGLY FENCEgFISH TAILiVE EIGHTHS BLOCK",
   "hLOORgHALF BLACK CIRCLErSTARnOCKlFOLDERlMEDIUM SHADElRUNNING MANiND TELEPHONE RECEIVER",
   "gLOW PARAPHRASE BRACKETgNORMAL FACTOR SEMIDIRECT PRODUCTgONE EIGHTH BLOCKkQUARTER BLOCK",
   "hPEN SQUARED DOThUTER JOINgPARENTHESISr EXTENSIONsLOWER HOOKsUPPER HOOK",
   "gRAISED OMISSION BRACKETgS-SHAPED BAG DELIMITERhEMIDIRECT PRODUCTiVEN EIGHTHS BLOCK",
   "hIDEWAYS U BRACKETiNGLE QUOTATION MARKhPEAKERn WITH ONE SOUND WAVEtTHREE SOUND WAVES",
   "jECH BUBBLEhQUARE BRACKETu EXTENSIONvLOWER CORNERvUPPER CORNERvWITH DOUBLE STROKE!QUILL!STROKE",
   "!TICK IN BOTTOM CORNER.TOP CORNER!UNDERBARhUBSTITUTION BRACKETgTACK",
   "hHIRD WHITE RIGHT POINTING INDEXiOUGHT BUBBLEiREE EIGHTHS BLOCKmQUARTERS BLOCK",
   "hORTOISE SHELL BRACKEThRANSPOSITION BRACKETiIANGLEo ABOVE LEFT TRIANGLEmULAR ONE QUARTER BLOCK",
   "gVERTICAL BAR WITH QUILLqOX LINEgWHITE CORNER BRACKETnURLY BRACKETmLENTICULAR BRACKET",
   "mPARENTHESISmSQUARE BRACKETmTORTOISE SHELL BRACKEThIGGLY FENCEf-FACING ARMENIAN ETERNITY SIGN",
   "nFISTnSVASTI SIGNy WITH DOTSgHANDED INTERLACED PENTAGRAMgPOINTING ANGLE BRACKET",
   "pCURVED ANGLE BRACKETpDOUBLE ANGLE QUOTATION MARKpMAGNIFYING GLASS",
   "gSHADED WHITE RIGHTWARDS ARROWhIDE ARC CLOCKWISE ARROWgTO-LEFT EMBEDDINGoISOLATEoMARKoOVERRIDE",
   "fHAND INTERIOR PRODUCTfWARDS ARROWq ABOVE ALMOST EQUAL TOxREVERSE ALMOST EQUAL TO",
   "*TILDE OPERATORxSHORT LEFTWARDS ARROWxTILDE OPERATORsND UPPER AND LOWER ONE EIGHTH BLOCK",
   "rFROM BARz TO BLACK DIAMONDrOVER LEFTWARDS ARROWrTHROUGH GREATER-THANzSUPERSETzXsO BAR",
   "vLACK DIAMONDrWITH CORNER DOWNWARDSwDOTTED STEMyUBLE VERTICAL STROKEwEQUILATERAL ARROWHEAD",
   "wHOOKwLARGE TRIANGLE ARROWHEADxOOPwMEDIUM TRIANGLE ARROWHEADwNOTCHED TAILwPLUS BELOW",
   "wSMALL EQUILATERAL ARROWHEAD$TRIANGLE ARROWHEADxTROKEwTAIL! WITH DOUBLE VERTICAL STROKE",
   "+VERTICAL STROKExIP DOWNWARDS!UPWARDSwVERTICAL STROKEq-TAILlBACK-TILTED SHADOWED WHITE ARROW",
   "mLACK ARROWrCIRCLED WHITE ARROWmOTTOM SHADED WHITE ARROWlCOMPRESSED ARROWlDASHED ARROW",
   "mOUBLE ARROWx FROM BARyWITH STROKE%VERTICAL STROKEx-TAILsDASH ARROWlFINGER-POST ARROW",
   "mRONT-TILTED SHADOWED WHITE ARROWlHANDnRPOON OVER LEFTWARDS HARPOON",
   "tWITH BARB DOWN ABOVE LEFTWARDS HARPOON WITH BARB DOWN.BELOW LONG DASH.FROM BAR.TO BAR,WARDS",
   "%UP ABOVE LEFTWARDS HARPOON WITH BARB UP>ONG DASH=RIGHTWARDS HARPOON WITH BARB DOWN+FROM BAR",
   "+TO BAR*WARDSmEAVY ARROWrCOMPRESSED ARROWlLEFT-SHADED WHITE ARROWlOPEN-HEADED ARROW",
   "lPAIRED ARROWSlQUADRUPLE ARROWlRIGHT-SHADED WHITE ARROWmOCKETlSANS-SERIF ARROWmQUARED ARROW",
   "oIGGLE ARROWlTOP SHADED WHITE ARROWmRIANGLE ARROWHEADt-HEADED ARROW",
   "+ OVER LEFTWARDS TRIANGLE-HEADED ARROW,TO BAR,WITH BOLD SHAFT=DOUBLE HORIZONTAL STROKE",
   "~VERTICAL STROKE=HEAVY SHAFT=LONG TIP DOWNWARDS)UPWARDS=MEDIUM SHAFT=NARROW SHAFT",
   "=VERY HEAVY SHAFT#DASHED ARROW#PAIRED ARROWSoPLE ARROWsDASH ARROWmWO HEADED ARROW",
   "o-HEADED ARROW FROM BAR$WITH DOUBLE VERTICAL STROKE,TAIL< WITH DOUBLE VERTICAL STROKE",
   "_VERTICAL STROKE.RIANGLE ARROWHEADS,VERTICAL STROKEwTRIPLE DASH ARROWlWAVE ARROWmHITE ARROW",
   "w FROM WALLxWITHIN TRIANGLE ARROWHEADcNGe ABOVEfBUOYfEQUAL TOfIN EQUAL TOfOPERATORfPOINT",
   "eED PLANETeING BELLcSING DIAGONAL CROSSING FALLING DIAGONALzSOUTH EAST ARROWbLEcIcMcO",
   "bOASTED SWEET POTATOcBOT FACEcCKeETcLL OF PAPEReED-UP NEWSPAPERfR COASTERhSKATE",
   "eING ON THE FLOOR LAUGHINGcMAN AS SIGNgCENTURIAL SIGNgDENARIUS SIGNhIMIDIA SEXTULA SIGN",
   "hUPONDIUS SIGNgNUMERAL EIGHTpLEVENoFIFTYt EARLY FORMuTHOUSANDqVEs HUNDREDtTHOUSANDpOURoNINE",
   "oONEr HUNDREDz THOUSANDsTHOUSAND! C DoREVERSED ONE HUNDREDoSEVENpIXr LATE FORMoTENr THOUSAND",
   "pHREEpWELVEqOgQUINARIUS SIGNgSEMUNCIA SIGNiSTERTIUS SIGNiXTANS SIGNkULA SIGNhILIQUA SIGN",
   "gUNCIA SIGNcOSTERcSEeTTEcTATED CAPITAL QiFLORAL HEART BULLETiHEAVY BLACK HEART BULLET",
   "iLIGHT FOUR POINTED BLACK CUSPiWHITE FOUR POINTED CUSPcUND PUSHPINgTARGETfED SYMBOL FOR CAItFU",
   "tLUtSHOUvUANGXItXIcWBOATbSbUBLE SIGNcGBY FOOTBALLcLE-DELAYEDcMI DIGIT EIGHTlFIVEmOURlNINElONE",
   "lSEVENmIXlTHREEmWOfFRACTION ONE HALFsQUARTERsTHIRDoTWO THIRDSfNUMBER EIGHT HUNDREDrYmFIFTY",
   "oVE HUNDREDnORTYoUR HUNDREDmNINE HUNDREDqTYmONE HUNDREDmSEVEN HUNDREDrTYnIX HUNDREDpTYmTEN",
   "nHIRTYoREE HUNDREDnWENTYoO HUNDREDcNIC ARLAUG SYMBOLgBELGTHOR SYMBOLgCROSS PUNCTUATION",
   "gLETTER AC AoESCoLGIZ EOLHXoNSUZ AnBERKANAN BEORC BJARKAN BnCoALCoEALCpNoWEORTHnDoAGAZ DAEG D",
   "oOTTED-LuNuPnEoARoHWAZ EH EoNGoTHnFEHU FEOH FE FoRANKS CASKET AC$ESC#EH#IS#OSnGoARoEBO GYFU G",
   "pRnHAEGL HpGLAZ HnICELANDIC-YRoNGqWAZoORoSAZ IS ISS IoWAZ EOHnJERAN JnKoAUN KrA",
   "nLAUKAZ LAGU LOGR LoONG-BRANCH-AR AEzHAGALL HzMADR MzOSS OzYRnMANNAZ MAN MnNAUDIZ NYD NAUD NnO",
   "oEoNoOoPEN-PoS OoTHALAN ETHEL OnPERTHO PEORTH PnQnRAIDO RAD REID RnSHpORT-TWIG-AR AyBJARKAN B",
   "yHAGALL HyMADR MyNAUD NyOSS OySOL SyTYR TyYRoIGEL LONG-BRANCH-SOL SoOWILO SoTAN",
   "nTHURISAZ THURS THORNoIWAZ TIR TYR TnURUZ UR UnVnWoUNJO WYNN WnXnYoRnZgMULTIPLE PUNCTUATION",
   "gSINGLE PUNCTUATIONgTVIMADUR SYMBOLdNEReING SHIRT WITH SASHcPEE SIGN",
   "cSSIAN ASTROLOGICAL SYMBOL BINOVILE$NOVILE$QUINTILE$SENTAGON$TREDECILE$VIGINTILEaS IN TRIANGLE",
   "bAFETY PINhVESTcGITTARIUScILBOATcKE BOTTLE AND CUPcLT SHAKEReIREdUTING FACE",
   "cMARITAN ABBREVIATION MARKkLETTER ALAFrBAAsITrDALATrFIrGAMANrINsTsYrKAAFrLABATrMIMrNUNrQUF",
   "rRISHrSHANsINGAATrTAAFsITsSAADIYrYUTrZENkMARK DAGESHpEPENTHETIC YUTpINr-ALAFpNEQUDAApOCCLUSION",
   "lODIFIER LETTER EPENTHETIC YUT!I!SHORT AkPUNCTUATION AFSAAQxNGEDyNAAUxRKAANUxTMAAUwBAU",
   "wMELODIC QITSAwNEQUDAAwQITSAwSHIYYAALAAxOF MASHFAATwTURUwZAEFxIQAAkVOWEL SIGN AwAvEvIvLONG A#A",
   "!E!I!UvOwVERLONG A*AvSHORT AwUKUNvUcNDWICHdS-SERIF HEAVY DOUBLE COMMA QUOTATION MARK ORNAMENT",
   "yTURNED COMMA QUOTATION MARK ORNAMENTrLOW DOUBLE COMMA QUOTATION MARK ORNAMENT",
   "lINTERROBANG ORNAMENTcRIcTELLITEj ANTENNAdURNcURASHTRA CONSONANT SIGN HAARUlDANDAmIGIT EIGHT",
   "rFIVEsOURrNINErONErSEVENsIXrTHREEsWOrZEROmOUBLE DANDAlLETTER AtAtItUsBAtHAsCAtHAsDAtDAuHAtHAsE",
   "tEsGAtHAsHAsItIsJAtHAsKAtHAsLAtLAsMAsNAtGAtNAtYAsOtOsPAtHAsRAsSAtHAtSAsTAtHAtTAuHAsUtUsVA",
   "tOCALIC L#L!R#RsYAlSIGN ANUSVARAqCANDRABINDUqVIRAMAsSARGAlVOWEL SIGN AAxIxUwExEwIxIwOxOwUxU",
   "wVOCALIC L*L&R*ReOPODcXOPHONEbCALESdRFcHOOLg SATCHELcIcOOTERdRPIONgUScREENeWDRIVER",
   "dIPT CAPITAL BpEpFpHpIpLpMpPpRhLIGATURE ET ORNAMENThSMALL EnGnLnOdOLLdUPLEbEALdT",
   "cCOND PLACE MEDALdTION SIGNeORcDNAcE-NO-EVIL MONKEYdDLINGcGMENThED DIGIT EIGHTqFIVErOURqNINE",
   "qONEqSEVENrIXqTHREErWOqZEROcLFIEcMICOLONeDIRECT PRODUCT WITH BOTTOM CLOSEDeSEXTILE",
   "cPARATED SYMBOLcRIOUS FACE WITH SYMBOLS COVERING MOUTHdVICE MARKcSAME DOTdQUIQUADRATEcT MINUS",
   "eTRANSMIT STATEcWING NEEDLEcXTILEbGCbHADOWED WHITE CIRCLEpLATIN CROSSpSTARdLLOW PAN OF FOOD",
   "dMROCKdRADA ABBREVIATION SIGNiCONTINUATION SIGNiDANDAjIGIT EIGHToFIVEpOURoNINEoONEoSEVENpIX",
   "oTHREEpWOoZEROjOUBLE DANDAiEKAMjXTRA SHORT VOWEL MARKiHEADSTROKEiLETTER AqAqIqUpBAqHApCAqHApDA",
   "qDArHAqHApEpGAqHApHApIqIpJAqHApKAqHApLAqLApMApNAqGAqNAqYApOpPAqHApRApSAqHAqSApTAqHAqTArHApUqU",
   "pVAqOCALIC LyLxRyRpYAiOMiSANDHI MARKjECTION MARK-1v2kPARATORjIGN ANUSVARAoVAGRAHAnCANDRABINDU",
   "nINVERTED CANDRABINDUnJIHVAMULIYAnNUKTAnSIDDHAMnUPADHMANIYAnVIRAMApSARGAjUTRA MARK",
   "iVOWEL MODIFIER MARKoSIGN AAuIuUtEtIuItOtPRISHTHAMATRA EtUuUtVOCALIC L$L#R$ReKdVED ICE",
   "eIAN LETTER ADOqGEqHqIRqRErRAYqSHqWEpBIBpCHURCHpDEADpEARrTqGGqRRpFEEpGAGpHA-HAqUNGpIANqCEqF",
   "pJUDGEpKICKpLOLLpMEASUREqIMEpNUNpOAKqILqNqOZEqRqUTpPEEPpROARpSOqUREpTHEYrIGHqOTpUPpVOWpWOErOL",
   "pYEArWpZOOcEEPcIELDdFT INgOUTdNTO SHRINEdPcOCKED FACE WITH EXPLODING HEADdOTING STAR",
   "dPPING BAGSjTROLLEYdRT BACKSLANTED SOUTH ARROWhENT ARROW POINTING DOWNWARDS THEN NORTH EAST",
   "gDOWN TACKp WITH OVERBARgLEFT TACKgRIGHTWARDS ARROW ABOVE LEFTWARDS ARROWgSLANTED NORTH ARROW",
   "gUP TACKn ABOVE SHORT DOWN TACKoWITH UNDERBARfCAKEfHAND FORMAT CONTINUING OVERLAPrDOWN STEP",
   "rLETTER OVERLAPrUP STEPfSdULDERED OPEN BOXdWERcRIMPdUGcUFFLE PRODUCTcYbIcDDHAM DANDA",
   "jOUBLE DANDAiEND OF TEXT MARKiLETTER AqAqIqLTERNATE UqUpBAqHApCAqHApDAqDArHAqHApEpGAqHApHApIqI",
   "pJAqHApKAqHApLApMApNAqGAqNAqYApOpPAqHApRApSAqHAqSApTAqHArREE-CIRCLE ALTERNATE IqTArHA",
   "qWO-CIRCLE ALTERNATE I<IpUqUpVAqOCALIC LyLxRyRpYAiREPETITION MARK-1y2y3",
   "iSECTION MARK DOUBLE RING+ WITH RAYSvWITH CIRCLES AND FOUR ENCLOSURES=RAYS=TWO ENCLOSURES",
   "!DOUBLE CRESCENTS!QUADRUPLE CRESCENTS!RAYS AND DOTTED CRESCENTS^DOUBLE CRESCENTS",
   "^TRIPLE CRESCENTS!SEPTUPLE CRESCENTS!TRIDENT AND DOTTED CRESCENTS=U-SHAPED ORNAMENTS",
   "%PLE CRESCENTSkPARATOR BARsDOTjIGN ANUSVARAnCANDRABINDUnNUKTAnSIDDHAMnVIRAMApSARGA",
   "iVOWEL SIGN AAuIuLTERNATE U&UuUtEtIuItOtUuUtVOCALIC R$RdEWAYS BLACK DOWN POINTING INDEX",
   "pLEFT POINTING INDEXpRIGHT POINTING INDEXpUP POINTING INDEXjWHITE DOWN POINTING INDEX",
   "pLEFT POINTING INDEXpRIGHT POINTING INDEXpUP POINTING INDEXcGN OF THE HORNS",
   "eWRITING AIR BLOW SMALL ROTATIONSuING OUTqSUCK SMALL ROTATIONSuING INmBREATH EXHALEtINHALE",
   "oUSH BETWEENsMULTIPLEsSINGLEmCHEEKS NEUTRALtPUFFEDtSUCKEDnOLONoMMA",
   "mDREAMY EYEBROWS DOWN NEUTRAL$NEUTRAL DOWN;UP$UP NEUTRALnYNAMIC ARROWHEAD LARGE&SMALL",
   "uEVERY OTHER TIMEuFASTuGRADUALuRELAXEDuSIMULTANEOUS+ ALTERNATINGvLOWuTENSEmEARSnXCITEMENT",
   "nYE BLINK MULTIPLEwSINGLEqWINKpBROWS STRAIGHT DOWN&NEUTRAL&UPpGAZE-FLOORPLANE CURVED*STRAIGHT",
   "> ALTERNATING?DOUBLEuWALLPLANE CIRCLING*URVED&STRAIGHT= ALTERNATING>DOUBLEpLASHES DOWN",
   "wFLUTTERINGwUPpS CLOSEDrHALF CLOSEDwOPENrOPENrSQUEEZEDrWIDE OPENvNING MOVEMENT",
   "mFACE DIRECTION POSITION NOSE FORWARD TILTING@UP OR DOWN)DOWN TILTINGnILL MODIFIER-2!3!4!5!6",
   "oNGERnLICK LARGE MULTIPLEySINGLEsSEQUENTIALtMALL MULTIPLEySINGLEoOORPLANE SHOULDER HIP MOVE",
   "nOREHEAD CONTACTvNEUTRALvWRINKLEDnULL STOPmGRASP BETWEENsMULTIPLEsSINGLEmHAIRoND-ANGLEw INDEX",
   "$ MIDDLE LITTLE;RING%RING LITTLE? OUT%THUMB. IN:OUTxLITTLE INDEX: THUMB INDEX THUMB) THUMB OUT",
   "&UPxMIDDLE RING LITTLE@ IN^OUTxRING DOWN MIDDLE THUMB INDEX CROSS$LITTLErCIRCLEx INDEX% BENT",
   "&HINGE&MIDDLE; CROSS LITTLE^ED<LITTLE<RING<THUMB&RING LITTLEyLITTLE INDEX*UP",
   "yMIDDLE RING LITTLE^ BENT*UPyRING LITTLEsLAWv FOUR FINGERS CONJOINED",
   "wINDEX THUMB CURVE THUMB INSIDEwMIDDLE RING LITTLE CONJOINED)NED SIDEwNO THUMBwTHUMB FORWARD",
   "$SIDEsUPu FIVE FINGERS SPREAD? OPENvINDEX! RING LITTLE#THUMB+ OPENvMIDDLE RING LITTLEvNO THUMB",
   "vOPENz NO THUMB!THUMB FORWARD+SIDEvTHUMB FORWARD#SIDEtRLICUEz INDEX RING LITTLE ON",
   "!MIDDLE RING LITTLE ON!OPENrFISTv FOUR FINGERS CONJOINED BENTwHEELwINDEX# BENT+ OVER MIDDLE",
   "$CUPPED$HINGED. LOW:MIDDLE UP| THUMB SIDE$MIDDLE. BENT> THUMB STRAIGHT:CONJOINED| CUPPED",
   ")PPED THUMB FORWARD~HINGED)NGED THUMB SIDE~INDEX BENT~MIDDLE BENT~THUMB FORWARD)UMB SIDE",
   ")UMB SIDE BENT)UMB SIDE CONJOINED;ROSS LITTLE?ED^ THUMB SIDE:HINGED@ SPREAD THUMB SIDE:LITTLE",
   ":RAISED KNUCKLES;ING> BENT?CONJOINED:STRAIGHT THUMB BENT:THUMB? ANGLED) OUT@BENT@CIRCLED",
   "^ONJOINED HINGED^UPPED@HINGED^OOKED:UP SPREAD THUMB FORWARD$RAISED KNUCKLE%ING LITTLE",
   "$THUMB ANGLED IN MIDDLE UP@OUT MIDDLE UP.CIRCLE?D MIDDLE UP:UPPED MIDDLE UP;RLICUE",
   "<VE THUMB INSIDE(UNDER.FORWARD INDEX BENT) STRAIGHT.HOOK=ED MIDDLE HINGED) UP.SIDE= BOTH BENT",
   ">INDEX BENT~HINGE>THUMB BENT~CONJOINED~DIAGONAL$UP MIDDLE HINGED| THUMB CONJOINED)UMB SIDE",
   "wLITTLE BENT%DOWN, OTHERS CIRCLED.RIPPLE CURVED@STRAIGHT%INDEX. THUMB%RAISED KNUCKLE%THUMB",
   "&OUCHES THUMB%UPwMIDDLE BENT OVER INDEX%DOWN%LITTLE%RAISED KNUCKLE&ING LITTLE",
   "%THUMB ANGLED INDEX UP^OUT INDEX CROSSED)NDEX UP:CIRCLED INDEX HINGED)X UP;UPPED INDEX UP",
   ":HOOKED INDEX UP:LITTLE%UP* THUMB SIDEwRING DOWN#INDEX#LITTLE#MIDDLE, CONJOINED",
   ".RAISED KNUCKLES#RAISED KNUCKLE#THUMB#UPwTHUMB# BETWEEN INDEX MIDDLE)E STRAIGHT;MIDDLE RING",
   ";RING LITTLE$FORWARD$HEEL$OVER FOUR RAISED KNUCKLES,TWO FINGERS$SIDE BENT,CONJOINED,DIAGONAL",
   "$UNDER FOUR FINGERS.INDEX BENT.LITTLE UP.THREE FINGERS:WO FINGERSsLATv BETWEEN PALM FACINGS",
   "wFIVE FINGERS SPREAD@ BENT^FOUR BENT^HINGED)D NO THUMB)D THUMB SIDE^THUMB FORWARDxOUR FINGERS",
   ". BENT:CONJOINED| SPLIT:HINGEDwHEEL! FIVE FINGERS SPREAD( BENT)FOUR BENT#THUMB SIDE",
   "wSPLIT CENTRE. THUMB SIDE~ BENT$INDEX THUMB SIDE$LITTLEwTHUMB BENT$FORWARD$SIDErHINGE",
   "w FIVE FINGERS SPREAD OPENyOUR FINGERS CONJOINEDxINDEX$ HINGED%MIDDLE LITTLE;RING? CONJOINED",
   "%RING LITTLE%THUMB. LARGE:OPEN:SIDE;MALLxLITTLE% INDEX: THUMB&THUMBxMIDDLE% RING LITTLE",
   "xNO THUMBxOPEN# NO THUMB$THUMB FORWARD.SIDExRING# DOWN INDEX THUMB HOOK MIDDLExSMALL",
   "xTHUMB BETWEEN MIDDLE RING%SIDE, TOUCHING INDEXsOOKv CURLICUEwINDEX RING LITTLE IN?OUT?UNDER",
   "wMIDDLE RING LITTLE CONJOINED)NED IN)NED OUT%THUMBwRING THUMBrOVALv FIVE FINGERS SPREADwINDEX",
   "wLITTLE UPwNO THUMBwRING LITTLEwTHUMB FORWARD$SIDEnEADq MOVEMENT CIRCLEz-FLOORPLANE CURVE",
   "<STRAIGHT!WALLPLANE CURVE;STRAIGHT;TILTrRIMmLIMB COMBINATIONrLENGTH-1y2y3y4y5y6y7",
   "oP LOWER OVER UPPERqUPPER OVER LOWERpS PRESSED TOGETHERnOCATION DEPTHvHEAD NECKxIGHT",
   "vLIMBS DIGITSvTORSOvWIDTHu-FLOORPLANE SPACEvWALLPLANE SPACEmMOUTH CLOSED CONTACTzFORWARD",
   "zNEUTRALtORNERSsFROWNx OPENyWRINKLEDsKISSw FORWARDxWRINKLEDsOPEN CIRCLExFORWARDxOVAL# WRINKLED",
   "$YAWNxRECTANGLE+ WRINKLED,YAWNxWRINKLEDsSMILEx OPENyWRINKLEDsTENSEx FORWARDySUCKED",
   "sWRINKLES DOUBLE#SINGLEoVEMENT-DIAGONAL AWAY LARGE?ST:MEDIUM:SMALL&BETWEEN AWAY LARGE)EST",
   "_MEDIUM_SMALL=TOWARDS LARGE)ARGEST(MEDIUM(SMALL&TOWARDS LARGE_ST=MEDIUM=SMALL",
   "vFLOORPLANE ARM CIRCLE HITTING WALL LARGE DOUBLE)ING WALL LARGE SINGLE)ING WALL MEDIUM DOUBLE",
   ")ING WALL MEDIUM SINGLE)ING WALL SMALL DOUBLE)ING WALL SMALL SINGLE+BEND,OX LARGE;MEDIUM;SMALL",
   "+CHECK,ORNER LARGE>MEDIUM>SMALL,ROSS,URVE COMBINED=HITTING CEILING LARGE)EILING SMALL",
   "(FLOOR LARGE)LOOR SMALL=LARGE_ST=MEDIUM=SMALL+DOUBLE ALTERNATING)ING WRIST FLEX>STRAIGHT",
   ">WRIST FLEX+FINGER CIRCLES HITTING WALL DOUBLE)HITTING WALL SINGLE?ONTACT",
   "+HUMP HITTING CEILING LARGE DOUBLE)ILING LARGE TRIPLE)ILING SMALL DOUBLE)ILING SMALL TRIPLE",
   "~FLOOR LARGE DOUBLE)OOR SMALL DOUBLE)OOR TRIPLE LARGE TRIPLE)OOR TRIPLE SMALL TRIPLE<SMALL+JAW",
   "+LOOP HITTING CEILING LARGE DOUBLE)ILING LARGE SINGLE)ILING SMALL DOUBLE)ILING SMALL SINGLE",
   "~FLOOR LARGE DOUBLE)OOR LARGE SINGLE)OOR SMALL DOUBLE)OOR SMALL SINGLE<SMALL+PEAKS LARGE",
   "=MEDIUM=SMALL+SHAKING PARALLEL,INGLE STRAIGHT LARGE) LARGEST) MEDIUM) SMALL>WRIST FLEX",
   "+TRIPLE ALTERNATING MOVEMENT)ING WRIST FLEX>STRAIGHT MOVEMENT>WRIST FLEX",
   "+WAVE HITTING CEILING LARGE)ILING SMALL~FLOOR LARGE)OOR SMALL<LARGE<SMALL=NAKE",
   ",RIST CIRCLE HITTING WALL DOUBLE)TTING WALL SINGLE+ZIGZAG LARGE>MEDIUM>SMALL",
   "vHINGE DOWN SEQUENTIAL#SIDE TO SIDE SCISSORS#UP DOWN ALTERNATING LARGE)SMALL:LARGE:SMALL",
   "&SEQUENTIALvWALLPLANE ARM CIRCLE MEDIUM DOUBLE)M SINGLE^SMALL DOUBLE) SINGLE*BEND LARGE;MEDIUM",
   ";SMALL+OX LARGE:MEDIUM:SMALL*CHECK LARGE<MEDIUM<SMALL+ORNER LARGE=MEDIUM=ROTATION=SMALL+ROSS",
   "+URVE HALF-CIRCLE LARGE)E LARGEST)E MEDIUM)E SMALL=ITTING CHEST~FRONT WALL<QUARTER LARGE)RGEST",
   "~MEDIUM~SMALL<THEN STRAIGHT>REE-QUARTER CIRCLE MEDIUM)TER CIRCLE SMALL;D CROSS MEDIUM|SMALL",
   "*DOUBLE ALTERNATING)NG WRIST FLEX=STRAIGHT=WRIST FLEX*FINGER CIRCLES DOUBLE(SINGLE>ONTACT",
   "*HUMP HITTING CHEST|FRONT WALL;LARGE;MEDIUM;SMALL*JAW*LOOP HITTING CHEST|FRONT WALL;LARGE",
   ";MEDIUM;SMALL@ DOUBLE*PEAKS LARGE<MEDIUM<SMALL*SHAKING+INGLE STRAIGHT LARGE)LARGEST)MEDIUM",
   ")SMALL=WRIST FLEX*TRIPLE ALTERNATING)NG WRIST FLEX=STRAIGHT MOVEMENT=WRIST FLEX",
   "*WAVE CURVE DOUBLE LARGE)E MEDIUM)E SMALL^TRIPLE LARGE)E MEDIUM)E SMALL;DIAGONAL PATH LARGE",
   ")TH MEDIUM)TH SMALL;HITTING CHEST|FRONT WALL+RIST CIRCLE FRONT DOUBLE)NT SINGLE*ZIGZAG LARGE",
   "=MEDIUM=SMALLmNECKnOSE CONTACTrNEUTRALrWIGGLESsRINKLESmPARENTHESISmROTATION MODIFIER-10*1*2*3",
   "*4*5*6&2&3&4&5&6&7&8&9u-FLOORPLANE ALTERNATING_ HITTING CEILING)TING FLOOR+DOUBLE",
   "= HITTING CEILING)FLOOR+SINGLE= HITTING CEILING)FLOORvWALLPLANE ALTERNATE>ING HITTING CHEST",
   ")ING FRONT WALL*DOUBLE< HITTING CHEST(FRONT WALL*SINGLE< HITTING CHEST(FRONT WALLnUB BETWEEN",
   "qMULTIPLEqSINGLEmSEMICOLONnHOULDER HIP POSITIONSzSPINEvTILTING FROM WAIST",
   "nQUEEZE FLICK ALTERNATINGuLARGE MULTIPLE!SINGLEuSEQUENTIALvMALL MULTIPLE!SINGLEnTRIKE BETWEEN",
   "tMULTIPLEtSINGLEnURFACE BETWEENuSYMBOLSmTEETHr BITE LIPSsMOVEMENTsON LIPSz MOVEMENTvTONGUE",
   "# MOVEMENToNSE CHEEKS HIGHzLOWzMIDDLEnONGUE CENTRE INSIDE MOUTH!STICKING OUT",
   "tINSIDE MOUTH RELAXEDtLICKING LIPStMOVES AGAINST CHEEKtSTICKING OUT FARtTIP BETWEEN LIPS",
   "xTOUCHING INSIDE MOUTHoRSO-FLOORPLANE TWISTINGsWALLPLANE CURVED BEND$STRAIGHT STRETCH",
   "oUCH BETWEENsMULTIPLEsSINGLEnRAVEL-FLOORPLANE ROTATION-FLOORPLANE ALTERNATING)NE DOUBLE",
   ")NE SINGLE>WALLPLANE ALTERNATING)E DOUBLE)E SINGLE&SHAKINGtWALLPLANE ARM SPIRAL DOUBLE?SINGLE",
   "?TRIPLE%ROTATION-FLOORPLANE ALTERNATING)E DOUBLE)E SINGLE=WALLPLANE ALTERNATING) DOUBLE",
   ") SINGLE%SHAKINGmUPPER BODY TILTING FROM HIP JOINTSmWALLPLANE SHOULDER HIP MOVE",
   "cLHOUETTE OF JAPANcMILAR ABOVE GREATER-THAN ABOVE EQUALS SIGNoLESS-THAN ABOVE EQUALS SIGN",
   "iMINUS SIMILARiOR GREATER-THANlLESS-THANcNE WAVEdGLE CHARACTER INTRODUCER",
   "hGRAPHIC CHARACTER INTRODUCERhHIGH-REVERSED-9 QUOTATION MARK",
   "hLEFT-POINTING ANGLE QUOTATION MARKiOW-9 QUOTATION MARKhRIGHT-POINTING ANGLE QUOTATION MARK",
   "hSHIFT THREEoWOg-SHIFT-2n3dHALA ARCHAIC DIGIT EIGHTwFIVExOURwNINEwONEwSEVENxIXwTHREExWO",
   "qNUMBER EIGHTYxFIFTYyORTYxNINETYxONE HUNDRED#THOUSANDxSEVENTYyIXTYxTENyHIRTYyWENTY",
   "iLETTER AAYANNAqEEYANNArYANNAqIYANNAqLPAPRAANA BAYANNA!CAYANNA!DAYANNA#DAYANNA!GAYANNA!JAYANNA",
   "!KAYANNA!PAYANNA!TAYANNA#TAYANNAqMBA BAYANNAqUYANNAqYANNApDANTAJA LAYANNAxNAYANNAxSAYANNA",
   "pEEYANNAqYANNApFAYANNApHAYANNApIIYANNAqLUUYANNAsYANNAqRUUYANNAsYANNAqYANNApKANTAJA NAASIKYAYA",
   "pMAHAAPRAANA BAYANNA#CAYANNA#DAYANNA$DAYANNA#GAYANNA#JAYANNA#KAYANNA#PAYANNA#TAYANNA$TAYANNA",
   "rYANNAqUURDHAJA LAYANNAzNAYANNAzSAYANNApOOYANNAqYANNApRAYANNApSANYAKA DAYANNAyDAYANNAxGAYANNA",
   "xJAYANNApTAALUJA NAASIKYAYAxSANYOOGA NAAKSIKYAYAzYANNApUUYANNAqYANNApVAYANNApYAYANNA",
   "jITH DIGIT EIGHTtFIVEuOURtNINEtONEtSEVENuIXtTHREEuWOtZEROiPUNCTUATION KUNDDALIYA",
   "iSIGN AL-LAKUNAoNUSVARAYAnCANDRABINDUnVISARGAYAiVOWEL SIGN AELA-PILLAtDIGA AEDA-PILLA",
   "yGAETTA-PILLA!YANUKITTAyIS-PILLAyKOMBUVAyPAA-PILLAtGAETTA-PILLAvYANUKITTAtKETTI AEDA-PILLA",
   "zIS-PILLAzPAA-PILLAuOMBU DEKAyVA! HAA AELA-PILLA*DIGA AELA-PILLA*GAYANUKITTA",
   "cX PETALLED BLACK AND WHITE FLORETTEfOINTED BLACK STARmPINWHEEL STARmSTAR WITH MIDDLE DOT",
   "d-PER-EM SPACEdTEEN POINTED ASTERISKbKATEBOARDcI AND SKI BOOTdERcULLf AND CROSSBONESdNK",
   "bLANTED EQUAL TO OR GREATER-THAN+ WITH DOT INSIDEuLESS-THAN% WITH DOT INSIDE",
   "iNORTH ARROW WITH HOOKED HEAD#RIZONTAL TAILdVONIC ASTERISKcEDdEPING ACCOMMODATIONjFACEjSYMBOL",
   "fY FACEdUTH OR SPYcICE OF PIZZAdGHTLY FROWNING FACEjSMILING FACEcOPEeING LARGE ANDoOR",
   "dT MACHINEeHbMALL AIRPLANEhMPERSANDhSTERISKgBLUE DIAMONDgCOLONiMMAkERCIAL ATiNTAINS AS MEMBER",
   "pWITH OVERBARuVERTICAL BAR AT END OF HORIZONTAL STROKEgDOLLAR SIGNgELEMENT OFq WITH OVERBAR",
   "wVERTICAL BAR AT END OF HORIZONTAL STROKEhM DASHhQUALS SIGNhXCLAMATION MARKgFULL STOP",
   "gGREATER-THAN SIGNgHYPHEN-MINUSgIDEOGRAPHIC COMMAgLEFT CURLY BRACKETlPARENTHESIS",
   "lTORTOISE SHELL BRACKETiSS-THAN SIGNgNUMBER SIGNgORANGE DIAMONDgPERCENT SIGNhLUS SIGN",
   "gQUESTION MARKgREVERSE SOLIDUShIGHT CURLY BRACKETmPARENTHESISmTORTOISE SHELL BRACKET",
   "hOMAN NUMERAL EIGHTvLEVENuFIFTYwVEy HUNDREDvOURuNINEuONEx HUNDREDyTHOUSANDuSEVENvIXuTENvHREE",
   "vWELVEwOgSEMICOLONgTILDEhWO DOTS OVER ONE DOT PUNCTUATIONgVEE WITH UNDERBARfER THAN",
   "m OR EQUAL TOdSH PRODUCTcILEeING CAT FACE WITH HEART-SHAPED EYESwOPEN MOUTHiFACE WITH HALO",
   "tEART-SHAPED EYEStORNSsOPEN MOUTH$ AND COLD SWEAT,SMILING EYES,TIGHTLY-CLOSED EYES",
   "sSMILING EYES& AND HAND COVERING MOUTH:THREE HEARTStUNGLASSESsTEARdRKING FACEcOKING SYMBOL",
   "bNAILdKEcEEZING FACEcOW CAPPED MOUNTAINeBOARDEReFLAKEeMANh WITHOUT SNOWbOcCCER BALLdKS",
   "cFT HYPHENfICE CREAMfSHELL FLOPPY DISKeBALLeWARE-FUNCTION SYMBOLcGDIAN COMBINING CURVE ABOVE",
   "yBELOWsDOT ABOVEwBELOWsHOOK ABOVExBELOWsLONG HOOK BELOWsRESH BELOWsSTROKE BELOWsTWO DOTS ABOVE",
   "#BELOWiINDEPENDENT SHINiLETTER ALEPHqYINpBETHpFETHpGIMELpHErTHpKAPHpLAMEDHqESHpMEMpNUNpPE",
   "pRESH-AYINpSADHErMEKHqHINpTAWpWAWpYODHpZAYINiNUMBER ONEs HUNDREDpTENqWENTY",
   "iPUNCTUATION CIRCLE WITH DOTuHALF CIRCLE WITH DOTuTWO CIRCLES WITH DOTSyVERTICAL BARS",
   "< WITH DOTScHcLID QUILT SQUARE ORNAMENT# IN BLACK SQUAREfUSh WITH OVERBARcM SIGN",
   "cON WITH RIGHTWARDS ARROW ABOVEcRA SOMPENG DIGIT EIGHTtFIVEuOURtNINEtONEtSEVENuIXtTHREEuWO",
   "tZEROnLETTER AHuBAHuCAHuDAHuEEHvHuGAHuHAHuIHuJAHuKAHuLAHuMAEwHuNAHvGAHvYAHuOHuPAHuRAHuSAHuTAH",
   "uUHuVAHuYAHcScUND RECORDING COPYRIGHTdTH EAST ARROWq AND SOUTH WEST ARROW",
   "rCROSSING NORTH EAST ARROWrTO CORNERrWITH HOOKlBLACK ARROWlDOUBLE ARROWlPOINTING BUDuLEAF",
   "uVINE LEAFlSANS-SERIF ARROWlTRIANGLE-HEADED ARROW+ TO BARlWHITE ARROWgWEST ARROW",
   "q AND NORTH WEST ARROWrWITH HOOKlBLACK ARROWlDOUBLE ARROWlPOINTING BUDuLEAFuVINE LEAF",
   "lSANS-SERIF ARROWlTRIANGLE-HEADED ARROW+ TO BARlWHITE ARROWcYOMBO CLUSTER-INITIAL LETTER LA*RA",
   "*SA+HAiFINAL CONSONANT SIGN -A%B%D%G%K%L%M%N&G%R%S&HiGEMINATION MARK",
   "iHEAD MARK WITH MOON AND SUN: AND FLAME?TRIPLE FLAMEiLETTER -ApApBAqHApCAqHApDAqDArHAqHAqZApGA",
   "qHApHApJAqHApKAqHAqSSApLApMApNAqGAqNAqYApPAqHApRApSAqHAqSApTAqHAqSArHAqTArHApVApYApZAqHA",
   "iMARK DOUBLE SHADnPLUTAnSHADnTSHEGiSIGN ANUSVARAnJIHVAMULIYAnUPADHMANIYAnVISARGAjUBJOINER",
   "iTERMINAL MARK-1w2iVOWEL LENGTH MARKoSIGN AIuUtEtItOuEtUuEtVOCALIC L#RbPcAdCEdGHETTIdRKLEhS",
   "gING HEARTcEAK-NO-EVIL MONKEYfERh WITH CANCELLATION STROKEnONE SOUND WAVEnTHREE SOUND WAVES",
   "fING HEAD IN SILHOUETTEdECH BALLOONeDBOATdSMILO SIGNcHERICAL ANGLEp OPENING LEFTyUPcIDERg WEB",
   "dRAL CALENDAR PADhNOTE PADhSHELLcLASHING SWEAT SYMBOLcONGEdOL OF THREADeNdRTS MEDAL",
   "dUTING WHALEbQUARE A OVER MiARUiMiNPEAiPAATOiRUHUAiUhBAARERUjRiEETAiIRUiORUTOiQiUSSYERU",
   "hC OVER KGiALjPiCiDiMj CUBEDkSQUAREDiOjRPORATIONiUPhDAjASUiBiESIiJiLiMj CUBEDkSQUAREDiORU",
   "hEEKAAiRA NAME HEISEIqMEIZIqREIWAqSYOUWAqTAISYOUjGiSUKUUDOiVhFMiOOTjUR CORNERShGALjNMAjRONiB",
   "iHZiIGAjNIIjRUDAAiPAiURAMUnTONiYhHAjITUiEKUTAARUjRUTUiGiIRAGANA HOKAiONjONkRUiPjAiUARADDOjIITO",
   "jRANiZhIMAGE OFp OR EQUAL TOtNOT EQUAL TOiNjINGUjTIiUhK OHMiAjIRIjRATTOkORIIiBiCALiEESUiGiHZ",
   "iIROlGURAMUlMEETORUlWATTOiKiLiMj CAPITALlUBEDkSQUAREDiOOPOjRUNAiPAiTiUROONEkUZEIROiViWiYURII",
   "hLEFT OPEN BOX OPERATORiMiNiOGjZENGEiXhM CUBEDjOHMkVER Sp SQUAREDjSQUAREDiAjHHAjIKUROkRUjNSYON",
   "jRUKUiBj SMALLiEETORUjGAlTONiGiHZiIKURONjLjRIlBAARUiLiMj CUBEDkSQUAREDiOLiPAiSiU AkFkGkLkMkSkV",
   "kWiVj MEGAiWj MEGAhNAjNOiFiMiOTTOiSiViWhONSUiOMUiRIGINAL OFs OR EQUAL TOwNOT EQUAL TOiVhPA",
   "j AMPSjASENTOkTUiCiEEZIjNIHIkSUjSOiFiHiIASUTORUjKOkURUiMiOINTOjNDOjSITION INDICATORiPMiRiSiViW",
   "hRADk OVER Sr SQUAREDiEMUjNTOGENiIGHT OPEN BOX OPERATORjRAjTTORUiOOTiUPIIjUBURUhSAIKURUjNTIIMU",
   "iENTIlOiIRINGUiRiVhTARGETiHZiONhUONhV OVER MhWATTOiBiITH BOTTOM HALF BLACKmCONTOURED OUTLINE",
   "mDIAGONAL CROSSHATCH FILLmHORIZONTAL FILLmLEFT HALF BLACKnOWER LEFT DIAGONAL HALF BLACK",
   "sRIGHT DIAGONAL HALF BLACKmORTHOGONAL CROSSHATCH FILLmRIGHT HALF BLACKmTOP HALF BLACK",
   "mUPPER LEFT DIAGONAL HALF BLACKxTO LOWER RIGHT FILLsRIGHT DIAGONAL HALF BLACK",
   "yTO LOWER LEFT FILLmVERTICAL FILLhYAADOkRUiUANgD ASTERISKiCJK UNIFIED IDEOGRAPH-4E00,9+2D+8C",
   "+A4&518D*21D+4D+72*3CC+F3*408+39*5B6*8F0*91A+29*B57*DE6*F8C&624B+53+95*307+55*599+B0*620*708,9",
   "*E80*F14&7121*51F+33*981*A7A*D42&89E3*CA9*D70&904A*14DjLjOOLiDOT OPERATORiEIGHT K",
   "iFALLING DIAGONAL SLASHjIVE POINT ONEjOUR DOT PUNCTUATIONnKjREEiHCjDRjI-RESjViIDiKATAKANA DE",
   "rKOKOrSAjEYiLATIN CAPITAL LETTER A%B%C%D%E%F%G%H%I%J%K%L%M%N%O%P%Q%R%S%T%U%V%W%X%Y%Z",
   "oSMALL LETTER DjOGICAL ANDqORkSSLESSiMINUSjViNEWjGiOKjNE HUNDRED TWENTY PiPLUSjPV",
   "iRISING DIAGONAL SLASHiSALTIREjDjECOND SCREENkVEN POINT ONEjHVjIXTY PjMALL CIRCLEjOSjQUAREjS",
   "iTHREE DjIMESjWENTY-TWO POINT TWOkO KiUHDjP WITH EXCLAMATION MARKiVODjSiWC",
   "eT BLACK RIGHTWARDS ARROWdIDbS2c3cAbTcADIUMdFF OF AESCULAPIUSjHERMESdMPED ENVELOPE",
   "dNDING PERSONdR AND CRESCENTfEQUALSfOF DAVIDgPERATORfWITH LEFT HALF BLACKkRIGHT HALF BLACK",
   "eT OF GUARDED AREAjHEADINGjPROTECTED AREAjSELECTED AREAkTRINGjTEXTdTIONeUE OF LIBERTY",
   "cEAM LOCOMOTIVEfING BOWLdNOGRAPHIC FULL STOPdTHOSCOPEcICK FIGUREm LEANING LEFTvRIGHT",
   "nWITH ARMS RAISEDsDRESScOCK CHARTdPWATCHcRAIGHT RULERiNESSeWBERRYdESS OUTLINED WHITE STAR",
   "dICTLY EQUIVALENT TOeNG TERMINATORcScUDIO MICROPHONEdFFED FLATBREADdPAcXbUBdSCRIPT EIGHT",
   "lQUALS SIGNkFIVElOURkLEFT PARENTHESISkMINUSkNINEkONEkPLUS SIGNkRIGHT PARENTHESISkSEVENlIX",
   "kTHREElWOkZEROeET ABOVE RIGHTWARDS ARROWnSUBSETpPERSEThOFj ABOVE ALMOST EQUAL TOqEQUALS SIGN",
   "qNOT EQUAL TOqTILDE OPERATORkOR EQUAL TOv WITH DOT ABOVEkWITH NOT EQUAL TOhWITH DOT",
   "mMULTIPLICATION SIGN BELOWmPLUS SIGN BELOWeTITUTEcCCEEDSi ABOVE ALMOST EQUAL TOpEQUALS SIGN",
   "pNOT ALMOST EQUAL TOtEQUAL TOpSINGLE-LINE EQUALS SIGN#NOT EQUAL TOjBUT NOT EQUIVALENT TO",
   "jOR EQUAL TOpIVALENT TOjUNDER RELATIONcMMATION BOTTOMkTOPkWITH INTEGRALcNd BEHIND CLOUD",
   "eWITH FACEdDANESE AVAGRAHAkCONSONANT SIGN PAMINGKAL#NYAKRA%IKU#SANGAN MA.WAkDIGIT EIGHTqFIVE",
   "rOURqNINEqONEqSEVENrIXqTHREErWOqZEROkLETTER AsErBAsHArCArDArEsUrFAsINAL KxMrGArHArIrJArKAsHA",
   "rLAsEUrMArNAsGAsYArOrPArQArRAsEUrSAsYArTArUrVArWArXArYArZAkPUNCTUATION BINDU BA SATANGA$CAKRA",
   "$DA SATANGA$KA SATANGA$LEU SATANGA$PANGLONG%URNAMA$SURYAkSIGN PAMAAEHrNGLAYARtWISADsYECEK",
   "pVIRAMAkVOWEL SIGN PAMEPETxNAELAENGyEULEUNGyGHULUyOLONGyYUKUdFLOWERdRISEh OVER MOUNTAINS",
   "dSET OVER BUILDINGScPERHEROfSCRIPT EIGHTnQUALS SIGNmFIVEnOURmLATIN SMALL LETTER I*N",
   "nEFT PARENTHESISmMINUSmNINEmONEmPLUS SIGNmRIGHT PARENTHESISmSEVENnIXmTHREEnWOmZERO",
   "gET ABOVE LEFTWARDS ARROWpSUBSETrPERSETjBESIDE AND JOINED BY DASH WITH SUBSETqSUBSETjOF",
   "l ABOVE ALMOST EQUAL TOsEQUALS SIGNsNOT EQUAL TOsTILDE OPERATORmOR EQUAL TOx WITH DOT ABOVE",
   "mWITH NOT EQUAL TOjPRECEDING SOLIDUSjWITH DOToMULTIPLICATION SIGN BELOWoPLUS SIGN BELOW",
   "fVILLAINcRFACE INTEGRALeERcSHIdPENSION RAILWAYbWANdSH AMPERSAND ORNAMENTcIMMERcUNG DASH",
   "bYLOTI NAGRI LETTER AuBHOvOuCHOvOuDDHOwOvHOvOuEuGHOvOuHOuIuJHOvOuKHOvOuLOuMOuNOuOuPHOvOuROvRO",
   "uSOuTHOvOvTHOwOuUnPOETRY MARK-1z2z3z4nSIGN ALTERNATE HASANTAtNUSVARAsDVISVARAsHASANTA",
   "nVOWEL SIGN AyEyIyOOyUcMBOL FOR ACKNOWLEDGElBACKSPACEmELLlCANCELnRRIAGE RETURN",
   "lDATA LINK ESCAPEmELETEr FORM TWOnVICE CONTROL FOUR!ONE!THREE#WOlEND OF MEDIUMsTEXT",
   "tRANSMISSION& BLOCKnQUIRYmSCAPElFILE SEPARATORmORM FEEDlGROUP SEPARATORlHORIZONTAL TABULATION",
   "lLINE FEEDlMARKS CHAPTERlNEGATIVE ACKNOWLEDGEnWLINEmULLlRECORD SEPARATORlSAMARITAN SOURCE",
   "mHIFT INrOUTmPACEmTART OF HEADINGuTEXTmUBSTITUTEv FORM TWOmYNCHRONOUS IDLElTYPE A ELECTRONICS",
   "lUNIT SEPARATORlVERTICAL TABULATIONdMETRYcNdAGOGUEdCHRONOUS IDLEcRIAC ABBREVIATION MARK",
   "hBARREKHhCOLON SKEWED LEFTuRIGHTjNTRACTIONhDOTTED ZLAMA ANGULARuHORIZONTALhEND OF PARAGRAPH",
   "iSASA ABOVEnBELOWhFEMININE DOThHARKLEAN ASTERISCUSqMETOBELUSqOBELUSiBASA ABOVEnBELOW",
   "m-ESASA DOTTEDiORIZONTAL COLONhLETTER ALAPHoBETHoDALATHpOTLESS DALATH RISHoEoFINAL SEMKATH",
   "oGAMALt GARSHUNIoHEqTHoKAPHoLAMADHoMALAYALAM BHAyJAyLLA!LAyNGAzNA!NAzYAyRAySSAyTTApIMoNUNoPE",
   "qRSIAN BHETHwDHALATHwGHAMALoQAPHoREVERSED PEpISHoSADHEpEMKATHpHINpOGDIAN FEwKHAPHwZHAIN",
   "pUPERSCRIPT ALAPHoTAWpETHs GARSHUNIoWAWoYUDHs HEoZAINhMUSIChOBLIQUE LINE ABOVEuBELOW",
   "hPTHAHA ABOVEoBELOWoDOTTEDhQUSHSHAYAhRBASA ABOVEnBELOWiUKKAKHAiWAHAhSUBLINEAR COLON",
   "w SKEWED LEFT&RIGHTrFULL STOPjPRALINEAR COLONy SKEWED LEFTtFULL STOPhTHREE DOTS ABOVEsBELOW",
   "iWO VERTICAL DOTS ABOVEzBELOWhZQAPHA ABOVEoBELOWoDOTTEDeNGEaT-REXcSHIRTbAB",
   "dLE TENNIS PADDLE AND BALLcCOcG AMPERSANDfPOSTROPHEfSTERISKeCIRCUMFLEX ACCENTfOLONgMMA",
   "iERCIAL ATeDIGIT EIGHTkFIVElOURkNINEkONEkSEVENlIXkTHREElWOkZEROfOLLAR SIGNeEQUALS SIGN",
   "fXCLAMATION MARKeFULL STOPeGRAVE ACCENTgEATER-THAN SIGNeHYPHEN-MINUSeLATIN CAPITAL LETTER AzB",
   "zCzDzEzFzGzHzIzJzKzLzMzNzOzPzQzRzSzTzUzVzWzXzYzZkSMALL LETTER AxBxCxDxExFxGxHxIxJxKxLxMxNxOxP",
   "xQxRxSxTxUxVxWxXxYxZfEFT CURLY BRACKETjPARENTHESISjSQUARE BRACKETgSS-THAN SIGNfOW LINE",
   "eNUMBER SIGNePERCENT SIGNfLUS SIGNeQUESTION MARKgOTATION MARKeREVERSE SOLIDUS",
   "fIGHT CURLY BRACKETkPARENTHESISkSQUARE BRACKETeSEMICOLONfOLIDUSfPACEeTILDEeVERTICAL LINE",
   "dALOG LETTER AqRCHAIC RApBApDApGApHApIpKApLApMApNAqGApPApRApSApTApUpWApYAiSIGN PAMUDPODnVIRAMA",
   "iVOWEL SIGN ItUdBANWA LETTER AqBAqDAqGAqIqKAqLAqMAqNArGAqPAqSAqTAqUqWAqYAjVOWEL SIGN IuU",
   "cI LE LETTER ApIpUEoEpEpHoFAoHAoIoKApHAoLAoMAoNApGAoOpOoPApHAoQAoSAoTApHApONE-2t3t4t5t6pSAqHA",
   "oUpEoVAoXAoYAeTHAM COMBINING CRYPTOGRAMMIC DOTlNSONANT SIGN BAyFINAL NGAyHIGH RATHA OR LOW PA",
   "yLA TANG LAIzOW PAyMAzEDIAL LA*RAySAjHORA DIGIT EIGHTuFIVEvOURuNINEuONEuSEVENvIXuTHREEvWOuZERO",
   "jLETTER AqBAqDAqEEqGREAT SAqHIGH CAwHAvFAvHAvKAwHAwXAvPAwHAvRATHAvSAwHAwSAvTAwHAvYAqIrIqLAsE",
   "rLArOW CAvHAuFAuHAuKAvHAvXAuPAvHAuRATHAuSAuTAvHAuYArUEqMAqNArGArYAqOOqRAsNAsTArUEqUrUqWA",
   "jSIGN CAANGoDOKMAIoHANGpOYoKAANsKUUpEOWpHUEN TONE-3z4z5t-LUE KARANoMAI KANGw LAIsSAMsYAMOK",
   "oRA HAAMpEVERSED ROTATED RANAoSAKOTqTKAANvKUUqWANoTONE-1t2oWIANGtWAAKjTHAM DIGIT EIGHTuFIVE",
   "vOURuNINEuONEuSEVENvIXuTHREEvWOuZEROjVOWEL SIGN AvAvEvIuEuIvIuMAI SATuOvA ABOVExBELOWvOvY",
   "uTALL AAvHAM AIuUvEvUwEeVIET LETTER HIGH BOvCHOwOvDOvFOvGOvHOvKHHOxOwOvLOvMOvNGOwOwYOvOvPHOwO",
   "vROvSOvTHOwOvVOvYOqLOW BOuCHOvOuDOuFOuGOuHOuKHHOwOvOuLOuMOuNGOvOvYOuOuPHOvOuROuSOuTHOvOuVOuYO",
   "jMAI KANGoHITjSYMBOL HO HOIqKOI KOIsNqNUENGqSAMjTONE MAI EKsNUENGsSONGsTHOjVOWEL AAqMqNqUEqYpE",
   "pIqApOpUqAqErAcKEOUT BOXdRI ABBREVIATION SIGNgDIGIT EIGHTmFIVEnOURmNINEmONEmSEVENnIXmTHREEnWO",
   "mZEROgLETTER AoAoIoRCHAIC KHAoUnBAoHAnCAoHAnDAoDApHAoHAnEnGAoHAnHAnIoInJAoHAnKAoHAnLAnMAnNAoGA",
   "oNAoYAnOnPAoHAnRAoRAnSAoHAnTAoHAoTApHAnUoUnVAnYAgSIGN ANUSVARAlNUKTAlVIRAMAnSARGA",
   "gVOWEL SIGN AAsIsUrErIsIrOrUsUcLLY MARK FIVElONEcMALEdIL AND ODD SIGNhS ABOVE SIGN",
   "hU LENGTH MARKgCREDIT SIGNhURRENT SIGNgDAY SIGNhEBIT SIGNhIGIT EIGHTmFIVEnOURmNINEmONEmSEVEN",
   "nIXmTHREEnWOmZEROhRY CULTIVATION SIGNgFRACTION DOWNSCALING FACTOR KIIZHpONE EIGHTHyIETHtFIFTH",
   "uORTIETHtHALF-1y2tONE-HUNDRED-AND-SIXTIETHtQUARTERtSIXTEENTH-1%2xY-FOURTHtTENTHuHIRTY-SECOND",
   "vREE-HUNDRED-AND-TWENTIETHuWENTIETHpTHREE EIGHTIETHSvQUARTERSvSIXTEENTHSzY-FOURTHSvTWENTIETHS",
   "gIN POSSESSION SIGNgLAND SIGNhETTER AoAoIoUnCAnEoEnHAnIoInJAnKAnLAoLApLAnMAnNAoGAoNApNAoYAnOoO",
   "nPAnRAoRAnSAoHAoSAnTAoTAnUoUnVAnYAgMONTH SIGNgNUMBER ONE HUNDREDrTHOUSANDnSIGNnTENgOM",
   "gPUNCTUATION END OF TEXTgRUPEE SIGNgSALT PAN SIGNhIGN AAZHAAKKUmNUSVARAlCEVITUlKAACUmURUNInZHI",
   "lMUKKURUNInTHALIYAnUVUZHAKKUlNELlPAARAMnNAMnTHAKKUmONlUZHAKKUlVAKAIYARAAnRAAKANmELImIRAMA",
   "nSARGAhPENT SIGNhTARTING FROM SIGNgTOTAL SIGNhRADITIONAL CREDIT SIGNsNUMBER SIGNgVOWEL SIGN AA",
   "sIsUrEsErIsIrOsOrUsUgWET CULTIVATION SIGNgYEAR SIGNcNABATA TREEdGERINEeSA DIGIT EIGHTnFIVEoOUR",
   "nNINEnONEnSEVENoIXnTHREEoWOnZEROhLETTER ACpQpWCqQqXqZpXpZoBAoCApHAoDApHAoECpQpXpZoFApINAL NG",
   "oGApHAoHApTAqTAoICpQpXpZoKApHAoLApONG UEXoMApCpQpXpZoNApGApHApYAoOCpQpXpZoPApHAoRAoSApHA",
   "qORT AWXuUEZoTApHApSAoUCpECqQqXqZpICqQqUCrQrXrZqXqZpQpXpZoVCpQpXpZoWAoXAoYAoZA",
   "eUT COMPONENT-001t2t3t4t5t6t7t8t9s10t1t2t3t4t5t6t7t8t9s20t1t2t3t4t5t6t7t8t9s30t1t2t3t4t5t6t7t8",
   "t9s40t1t2t3t4t5t6t7t8t9s50t1t2t3t4t5t6t7t8t9s60t1t2t3t4t5t6t7t8t9s70t1t2t3t4t5t6t7t8t9s80t1t2",
   "t3t4t5t6t7t8t9s90t1t2t3t4t5t6t7t8t9r100t1t2t3t4t5t6t7t8t9s10t1t2t3t4t5t6t7t8t9s20t1t2t3t4t5t6",
   "t7t8t9s30t1t2t3t4t5t6t7t8t9s40t1t2t3t4t5t6t7t8t9s50t1t2t3t4t5t6t7t8t9s60t1t2t3t4t5t6t7t8t9s70",
   "t1t2t3t4t5t6t7t8t9s80t1t2t3t4t5t6t7t8t9s90t1t2t3t4t5t6t7t8t9r200t1t2t3t4t5t6t7t8t9s10t1t2t3t4",
   "t5t6t7t8t9s20t1t2t3t4t5t6t7t8t9s30t1t2t3t4t5t6t7t8t9s40t1t2t3t4t5t6t7t8t9s50t1t2t3t4t5t6t7t8t9",
   "s60t1t2t3t4t5t6t7t8t9s70t1t2t3t4t5t6t7t8t9s80t1t2t3t4t5t6t7t8t9s90t1t2t3t4t5t6t7t8t9r300t1t2t3",
   "t4t5t6t7t8t9s10t1t2t3t4t5t6t7t8t9s20t1t2t3t4t5t6t7t8t9s30t1t2t3t4t5t6t7t8t9s40t1t2t3t4t5t6t7t8",
   "t9s50t1t2t3t4t5t6t7t8t9s60t1t2t3t4t5t6t7t8t9s70t1t2t3t4t5t6t7t8t9s80t1t2t3t4t5t6t7t8t9s90t1t2",
   "t3t4t5t6t7t8t9r400t1t2t3t4t5t6t7t8t9s10t1t2t3t4t5t6t7t8t9s20t1t2t3t4t5t6t7t8t9s30t1t2t3t4t5t6",
   "t7t8t9s40t1t2t3t4t5t6t7t8t9s50t1t2t3t4t5t6t7t8t9s60t1t2t3t4t5t6t7t8t9s70t1t2t3t4t5t6t7t8t9s80",
   "t1t2t3t4t5t6t7t8t9s90t1t2t3t4t5t6t7t8t9r500t1t2t3t4t5t6t7t8t9s10t1t2t3t4t5t6t7t8t9s20t1t2t3t4",
   "t5t6t7t8t9s30t1t2t3t4t5t6t7t8t9s40t1t2t3t4t5t6t7t8t9s50t1t2t3t4t5t6t7t8t9s60t1t2t3t4t5t6t7t8t9",
   "s70t1t2t3t4t5t6t7t8t9s80t1t2t3t4t5t6t7t8t9s90t1t2t3t4t5t6t7t8t9r600t1t2t3t4t5t6t7t8t9s10t1t2t3",
   "t4t5t6t7t8t9s20t1t2t3t4t5t6t7t8t9s30t1t2t3t4t5t6t7t8t9s40t1t2t3t4t5t6t7t8t9s50t1t2t3t4t5t6t7t8",
   "t9s60t1t2t3t4t5t6t7t8t9s70t1t2t3t4t5t6t7t8t9s80t1t2t3t4t5t6t7t8t9s90t1t2t3t4t5t6t7t8t9r700t1t2",
   "t3t4t5t6t7t8t9s10t1t2t3t4t5t6t7t8t9s20t1t2t3t4t5t6t7t8t9s30t1t2t3t4t5t6t7t8t9s40t1t2t3t4t5t6t7",
   "t8t9s50t1t2t3t4t5t6t7t8t9s60t1t2t3t4t5t6t7t8hITERATION MARKcPE CARTRIDGEfDRIVEcURUScXI",
   "bEACUP WITHOUT HANDLEdPOTdR-OFF CALENDAReDROP-BARBED RIGHTWARDS ARROWjSPOKED ASTERISKcDDY BEAR",
   "cLEPHONE LOCATION SIGNkON TOP OF MODEMkRECEIVERs WITH PAGEnORDERkSIGNeSCOPEeVISION",
   "dUGU AI LENGTH MARKhDIGIT EIGHTnFIVEoOURnNINEnONEnSEVENoIXnTHREEoWOnZERO",
   "hFRACTION DIGIT ONE FOR EVEN POWERS OF FOUR&ODD POWERS OF FOURwTHREE FOR EVEN POWERS OF FOUR",
   "+ODD POWERS OF FOURxWO FOR EVEN POWERS OF FOUR&ODD POWERS OF FOURwZERO FOR ODD POWERS OF FOUR",
   "hLENGTH MARKjTTER ApApIpUoBApHAoCApHAoDApDAqHApHApZAoEpEoGApHAoHAoIpIoJApHAoKApHAoLApLAqLAoMA",
   "oNAqKAARA POLLUpGApNApYAoOpOoPApHAoRApRAqRAoSApHApSAoTApHApSApTAqHAoUpUoVApOCALIC LxLwRxRoYA",
   "hSIGN ANUSVARAnVAGRAHAmCANDRABINDUnOMBINING ANUSVARA ABOVEwCANDRABINDU ABOVEmNUKTAmSIDDHAM",
   "mTUUMUmVIRAMAoSARGAhVOWEL SIGN AAtItUsEtEsItIsOtOsUtUsVOCALIC L#L!R#RcNGE SIGN",
   "dNIS RACQUET AND BALLdTcST TUBEcTRAGRAM FOR ACCUMULATIONpDVANCEpGGRAVATIONpSCENToBARRIER",
   "pOLD RESOLUTIONpRANCHING OUToCENTREpHANGEpLOSED MOUTHtNESSsUREpOMPLETIONtIANCEqNSTANCYrTACT",
   "sENTIONsRARIETYoDARKENINGpECISIVENESSqFECTIVENESS OR DISTORTIONqPARTUREpIFFICULTIESqMINISHMENT",
   "rMINGqVERGENCEpOUBTpUTIESoEASEpMBELLISHMENTpNCOUNTERSqDEAVOURqLARGEMENTpTERNITYpXHAUSTION",
   "oFAILUREpLIGHTpOLLOWINGqSTERINGpULL CIRCLEsNESSoGATHERINGx INpOING TO MEETpREATNESSpUARDEDNESS",
   "oHARDNESSpOLDING BACKoINCREASEqNERoJOYoKEEPING SMALLpINSHIPoLABOURINGqW OR MODELpEGIONoMASSING",
   "pEASUREpIREDoON THE VERGEpPPOSITIONoPACKINGqTTERNpENETRATIONpURITYoREACHqLEASEqSIDENCEsSTANCE",
   "rPONSEpITUALoSEVERANCEpINKINGpTOPPAGErVEqRENGTHoUNITYoVASTNESS OR WASTINGoWAITINGqTCH",
   "oYOUTHFULNESSbHAANA AABAAFILIiBAFILIhEBEFILIiEBEEFILIiYBEYFILIhIBIFILIhLETTER AINUpLIFUoBAA",
   "oCHAVIYANIoDAADHUqVIYANIpHAALUoFAAFUoGAAFUpHAINUpNAVIYANIoHAApHAAoJAVIYANIoKAAFUpHAAoLAAMU",
   "pHAVIYANIoMEEMUoNAApOONUoPAVIYANIoQAAFUoRAAoSAADHUpEENUpHAVIYANIqEENUoTAVIYANIpHAAsLUpOpTAA",
   "oVAAVUoWAAVUoYAAoZAAqVIYANIpOhOABOAFILIiBOFILIiOBOOFILIhSUKUNhUBUFILIdI CHARACTER ANGKHANKHU",
   "pBO BAIMAIpCHO CHANxGvINGvOEpDO CHADAsDEKpFO FAuNrNGMANpHO HIPsNOKHUKpKHO KHAIvONvUATvWAI",
   "tRAKHANGsMUTqO KAIpLAKKHANGYAOqO CHULAsLINGqUpMAI CHATTAWAtEKtHAN-AKATtTHOuRIsTAIKHUsYAMOK",
   "qO MApNGO NGUqIKHAHITqO NENtUpO ANGpPAIYANNOIqHINTHUrO PHANvUNGtSAMPHAOqO PLApRO RUAqUpSARA A",
   "vAvEvI MAIMALAI#UANvMuEuIvIuOuUvEwEvUqO RUSIsSALAtOtUApTHANTHAKHATrO NANGMONTHOtPHUTHAOtTHAHAN",
   "wNvONGvUNGqO PATAKsTAOpWO WAENpYAMAKKANqO YAKtINGgURRENCY SYMBOL BAHTfDIGIT EIGHTlFIVEmOUR",
   "lNINElONElSEVENmIXlTHREEmWOlZEROcERE DOES NOT EXISTgEXISTSfFOREeMODYNAMICgMETERcIN GREEK CROSS",
   "fSALTIREgPACEeKING FACEdRD PLACE MEDALcONG SANDALdUGHT BALLOONcREE BUTTON MOUSE",
   "gCONSECUTIVE EQUALS SIGNSgDIMENSIONAL ANGLEhOT PUNCTUATIONgLEFTWARDS ARROWS",
   "hINES CONVERGING LEFTxRIGHTgNETWORKED COMPUTERSgPOINTED BLACK STARgRAYS ABOVElBELOWlLEFTlRIGHT",
   "hIGHTWARDS ARROWSgSPEECH BUBBLESf-D BOTTOM-LIGHTED RIGHTWARDS ARROWHEAD",
   "iLEFT-LIGHTED DOWNWARDS EQUILATERAL ARROWHEADiRIGHT-LIGHTED UPWARDS EQUILATERAL ARROWHEAD",
   "iTOP-LIGHTED LEFTWARDS EQUILATERAL ARROWHEADuRIGHTWARDS ARROWHEAD*EQUILATERAL ARROWHEAD",
   "gEM DASHgPER-EM SPACEcUMBS DOWN SIGNhUP SIGNdNDER CLOUD AND RAINhSTORM",
   "bIBETAN ASTROLOGICAL SIGN -KHYUD PA!SDONG TSHUGS#GRA GCAN -CHAR RTAGS",
   "iCANTILLATION SIGN CANG TE-U!HEAVY BEAT!LIGHT BEAT!SBUB -CHALiDIGIT EIGHToFIVEpOURoHALF EIGHT",
   "tFIVEuOURtNINEtONEtSEVENuIXtTHREEuWOtZEROoNINEoONEoSEVENpIXoTHREEpWOoZEROiKU RU KHA",
   "r BZHI MIG CANiLETTER -ApApBAqHApCAqHApDAqDArHAqHAqZArHApFIXED-FORM RApGAqHApHApJApKAqHAqKA",
   "qSSApLApMApNAqGAqNAqYApPAqHApRAqRApSAqHAqSApTAqHAqSArHAqTArHApWApYApZAqHA",
   "jOGOTYPE SIGN CHAD RTAGSwLHAG RTAGSiMARK ANG KHANG GYASzONnBKA- SHOG GI MGO RGYANxYIG MGO",
   "oSDUS RTAGSpKA- SHOG GI MGO RGYANqUR YIG MGOnCARET -DZUD RTAGS BZHI MIG CAN*ME LONG CAN",
   "tYIG MGO PHUR SHAD MAoHE MGOoLOSING BRDA RNYING YIG MGO SGAB MAvYIG MGO SGAB MA",
   "nDELIMITER TSHEG BSTARnGTER TSHEGsYIG MGO -UM GTER TSHEG MA&RNAM BCAD MA!TRUNCATED A",
   "oUG RTAGS GYASzONnHALANTAnINITIAL BRDA RNYING YIG MGO MDUN MAvYIG MGO MDUN MA",
   "pTERSYLLABIC TSHEGnLEADING MCHAN RTAGSnMNYAM YIG GI MGO RGYANnNGAS BZUNG NYI ZLAySGOR RTAGS",
   "oYIS SHADsTSHEGx SHADnPALUTAnRGYA GRAM SHADoIN CHEN SPUNGS SHADnSBRUL SHADoHAD",
   "nTRAILING MCHAN RTAGSoSA -PHRUpHEG SHADnYIG MGO TSHEG SHAD MAiSIGN GRU CAN RGYINGSrMED RGYINGS",
   "nINVERTED MCHU CANnLCE TSA CANpI RTAGSnMAR TSHESoCHU CANnNYI ZLA NAA DAnRDEL DKAR GCIGyNYIS",
   "ySUMxRDEL NAGsNAG GCIGxNYISxSUMwRDEL DKARoJES SU NGA ROoNAM BCADnSNA LDANnYANG RTAGSpR TSHES",
   "jUBJOINED LETTER -AzAzBA!HAzCA!HAzDA!DA#HA!HA!ZA#HAzFIXED-FORM RA;WA;YAzGA!HAzHAzJAzKA!HA!SSA",
   "zLAzMAzNA!GA!NA!YAzPA!HAzRAzSA!HA!SAzTA!HA!SA#HA!TA#HAzWAzYAzZA!HAsSIGN INVERTED MCHU CAN",
   "xLCE TSA CANxMCHU CANjYLLABLE OMkMBOL DRIL BUpNOR BUv BZHI -KHYILwGSUM -KHYILwNYIS -KHYIL",
   "pPADMA GDANqHUR PApRDO RJEw RGYA GRAMiVOWEL SIGN AAtEuEtIuItOuOtREVERSED I%ItUuUtVOCALIC L$L#R",
   "$RcCKETcE OVER INFINITYcFINAGH CONSONANT JOINERjLETTER AHAGGAR YAZHrYER YAGH",
   "qBERBER ACADEMY YAH,JqTAWELLEMET YAZrUAREG YAGH!NzHzK!HzNGzQzZHqYAsAsBtHsCHsDtDuHtHsFsGtHuHsH",
   "tHsJsKtHuHsLsMsNsPsQsRtRsStHtSsTtHtTsVsWsYsZtHtZrEsYrIrOrUjMODIFIER LETTER LABIALIZATION MARK",
   "jSEPARATOR MARKcGERf FACEdHT TRIFOLIATE SNOWFLAKEcLDEf OPERATORo ABOVE LEFTWARDS ARROW",
   "vRIGHTWARDS ARROWpWITH DOT ABOVEuRISING DOTSgWITH DOT ABOVEpBELOWlRING ABOVEcMER CLOCK",
   "eS WITH LEFT HALF BLACKlRIGHT HALF BLACKcNYe TWO DOTS OVER ONE DOT PUNCTUATIONcRED FACE",
   "dHUTA ABBREVIATION SIGNjNJIiDIGIT EIGHToFIVEpOURoNINEoONEoSEVENpIXoTHREEpWOoZEROiGVANG",
   "iLETTER AqAqIqUpBAqHApCAqHApDAqDArHAqHApEpGAqHApHApIqIpJAqHApKAqHApLApMApNAqGAqNAqYApOpPAqHA",
   "pRApSAqHAqSApTAqHAqTArHApUqUpVAqOCALIC LyLxRyRpYAiOMiSIGN ANUSVARAoVAGRAHAnCANDRABINDUnNUKTA",
   "nVIRAMApSARGAiVOWEL SIGN AAuIuUtEtIuItOtSHORT EzOtUuUtVOCALIC L$L#R$RdONIAN SIGN CAPITAL EToET",
   "bOILETcKYO TOWERcMATOcNGUEcOLBOXdTHfBRUSHcP ARC ANTICLOCKWISE ARROW# WITH PLUS",
   "iCLOCKWISE ARROW WITH MINUSeCURLY BRACKETeHALF BLACK CIRCLEjINTEGRALjLEFT PARENTHESIS",
   "jRIGHT PARENTHESISjSECTION SIGNgTeLEFT CORNERkROPjHALF BRACKETePARENTHESISeRIGHT CORNERlROP",
   "kHALF BRACKETeSQUARE BRACKETeTORTOISE SHELL BRACKETeWITH UPWARDS ARROW ABOVE",
   "cRTOISE SHELL BRACKETED CJK UNIFIED IDEOGRAPH-4E09)4E8C)52DD)5B89)6253)6557)672C)70B9)76D7",
   "zLATIN CAPITAL LETTER ScTAL RUNOUTdO LETTER AnEmBAnREATHY AEuEvOuIvUmCHAmDAmEnOmGAmHAmInUmJA",
   "mKAmLAmMAmNAnGAmOmPAmRAmSAmTAmUmWAmYAfSIGN RISING TONEbRACKBALLeTORdDE MARK SIGNdINdMe CAR",
   "dNSPLUTOfVERSAL INTERSECTIONcIANGLE WITH DOT ABOVEoROUNDED CORNERSoSERIFS AT BOTTOMoUNDERBAR",
   "i-HEADED RIGHTWARDS ARROWgULAR BULLETlFLAG ON POSTlRULERdCOLONdDENT EMBLEMdGRAM FOR EARTHmFIRE",
   "mHEAVENmLAKEmMOUNTAINmTHUNDERmWATERnINDdPLE COLON OPERATORhDAGGER",
   "hHORIZONTAL BAR WITH DOUBLE VERTICAL STROKE#TRIPLE VERTICAL STROKEhINTEGRAL",
   "hNESTED GREATER-THANoLESS-THANhPLUSiRIMEhSOLIDUS BINARY RELATIONhTILDE",
   "hVERTICAL BAR BINARY RELATIONuDELIMITERuRIGHT TURNSTILEuWITH HORIZONTAL STROKEcOLLfEYBUSdPHY",
   "eICAL DRINKjFISHcUEe LIGHT MOON ARTAdMPETbUGRIK SIGNcLIPcMBLER GLASScRKEYeISH LIRA SIGN",
   "dNED AMPERSANDiNGLEhBLACK PENTAGONnSHOGI PIECEhCAPITAL FiOMMAhDAGGERiIGIT THREEoWO",
   "hGREEK SMALL LETTER IOTAhNORTH EAST POINTING LEAFnWEST POINTING LEAFjT SIGNhOK HAND SIGN",
   "hSANS-SERIF CAPITAL G!L!YiEMICOLONiMALL FiOUTH EAST POINTING LEAFnWEST POINTING LEAF",
   "hWHITE SHOGI PIECEdTLEbWELVE POINTED BLACK STARcISTED RIGHTWARDS ARROWS",
   "cO ASTERISKS ALIGNED VERTICALLYeBUTTON MOUSEeCONSECUTIVE EQUALS SIGNSeDOT LEADERiPUNCTUATION",
   "hS OVER ONE DOT PUNCTUATIONeHEARTSeINTERSECTING LOGICAL ANDzOReJOINED SQUARES",
   "eLOGICAL AND OPERATORmOR OPERATOReMEN HOLDING HANDSeSPEECH BUBBLESeWOMEN HOLDING HANDS",
   "d-EM DASHaUGARITIC LETTER AINrLPAqBETAqDELTArHALqGAMLArHAINqHOsTAqIqKAFrHAqLAMDAqMEMqNUNqPU",
   "qQOPAqRASHAqSADEsMKArHINrSUqTETrHANNArOqUqWOqYODqZETArUjWORD DIVIDERbMBRELLAi ON GROUND",
   "jWITH RAIN DROPSbNAMUSED FACEcCERTAINTY SIGNcDERTIEdO SYMBOLcICORN FACEdON",
   "f ABOVE BAR ABOVE INTERSECTIONmINTERSECTIONgBESIDE AND JOINED WITH UNIONgWITH LOGICAL OR",
   "lMINUS SIGNlOVERBARdT SEPARATOReED SYMBOLdVERSAL RECYCLING SYMBOLcMARRIED PARTNERSHIP SYMBOL",
   "bP ARROW THROUGH CIRCLEiHEADm BETWEEN TWO HORIZONTAL BARSnIN A RECTANGLE BOX",
   "dBARB LEFT DOWN BARB LEFT HARPOONxRIGHT HARPOONiRIGHT DOWN BARB LEFT HARPOONyRIGHT HARPOON",
   "dDOWN ARROWn WITH BASEiBLACK ARROWiDOUBLE ARROWiSANS-SERIF ARROWiTRIANGLE-HEADED ARROW",
   "iWHITE ARROWdFISH TAILdRIGHT DIAGONAL ELLIPSISdTACKh WITH CIRCLE ABOVEc-POINTING AIRPLANE",
   "mMILITARY AIRPLANEmRED TRIANGLEmSMALL AIRPLANEsRED TRIANGLEmTRIANGLE WITH LEFT HALF BLACK",
   "!RIGHT HALF BLACKcPER AND LEFT AND LOWER TRIANGULAR THREE QUARTERS BLOCKlOWER ONE EIGHTH BLOCK",
   "qTRIANGULAR HALF BLOCKkRIGHT AND LOWER TRIANGULAR THREE QUARTERS BLOCKgBLADE SCISSORS",
   "gFIVE EIGHTHS BLOCKgHALF BLOCKq AND LOWER HALF INVERSE MEDIUM SHADElCIRCLE",
   "lINVERSE MEDIUM SHADE AND LOWER HALF BLOCKtWHITE CIRCLElMEDIUM SHADE",
   "gLEFT BLOCK DIAGONAL LOWER CENTRE TO LOWER MIDDLE RIGHT^UPPER MIDDLE RIGHT) RIGHT",
   "+LEFT TO LOWER MIDDLE RIGHT?UPPER CENTRE(MIDDLE RIGHT+MIDDLE LEFT TO UPPER CENTRE",
   ")UPPER MIDDLE RIGHT)UPPER RIGHT!UPPER MIDDLE LEFT TO UPPER CENTRE)UPPER RIGHTlCORNER WITH DOT",
   "lOR LOWER RIGHT CURLY BRACKET SECTIONlQUADRANT CIRCULAR ARClTO LOWER RIGHT FILLmRIANGLE",
   "rULAR MEDIUM SHADEgONE EIGHTH BLOCKkQUARTER BLOCK",
   "gRIGHT BLOCK DIAGONAL LOWER MIDDLE LEFT TO LOWER CENTRE) LOWER RIGHT",
   "#UPPER CENTRE TO LOWER MIDDLE RIGHT)R RIGHT_UPPER MIDDLE RIGHT,LEFT TO LOWER CENTRE",
   ")MIDDLE RIGHT@UPPER MIDDLE RIGHT,MIDDLE LEFT TO LOWER CENTRE) LOWER MIDDLE RIGHT) LOWER RIGHT",
   "mDROP-SHADOWED WHITE SQUAREmOR LOWER LEFT CURLY BRACKET SECTIONmPENCILmQUADRANT CIRCULAR ARC",
   "mSHADOWED WHITE CIRCLE#SQUAREmTO LOWER LEFT FILLnRIANGLEsULAR MEDIUM SHADEgSEVEN EIGHTHS BLOCK",
   "gTHREE EIGHTHS BLOCKmQUARTERS BLOCKhRIANGULAR ONE QUARTER BLOCKcSIDE-DOWN FACEcWARDS ANCORA",
   "jRROWn AND RIGHT ONE EIGHTH BLOCKoFROM BARoLEFTWARDS OF DOWNWARDS ARROWoTO BAR",
   "oWITH DOUBLE STROKEtEQUILATERAL ARROWHEADtHORIZONTAL STROKEtLARGE TRIANGLE ARROWHEAD",
   "tMEDIUM TRIANGLE ARROWHEADtNOTCHED TAILtSMALL EQUILATERAL ARROWHEADzTRIANGLE ARROWHEAD",
   "tTIP LEFTWARDSxRIGHTWARDSiBLACK ARROWoCIRCLED WHITE ARROWiCOMPRESSED ARROWiDASHED ARROW",
   "jOUBLE ARROWiFINGER-POST ARROWiHARPOON WITH BARB LEFT BESIDE DOWNWARDS HARPOON WITH BARB RIGHT",
   "=UPWARDS HARPOON WITH BARB RIGHT*FROM BAR*TO BAR&WARDS!RIGHT FROM BAR+TO BAR*WARDSjEAVY ARROW",
   "oCOMPRESSED ARROWiPAIRED ARROWSiQUADRUPLE ARROWiROCKETiSANS-SERIF ARROWjQUARED ARROW",
   "iTRIANGLE ARROWHEADq-HEADED ARROW% LEFTWARDS OF DOWNWARDS TRIANGLE-HEADED ARROW&TO BAR",
   "&WITH BOLD SHAFT:DOUBLE HORIZONTAL STROKE:HEAVY SHAFT:LONG TIP LEFTWARDS|RIGHTWARDS",
   ":MEDIUM SHAFT:NARROW SHAFT:VERY HEAVY SHAFTyDASHED ARROWyPAIRED ARROWSlPLE ARROW",
   "jWO HEADED ARROWl-HEADED ARROW FROM SMALL CIRCLEzWITH TRIANGLE ARROWHEADSiWHITE ARROW",
   "t FROM BAR$ WITH HORIZONTAL BARuON PEDESTAL* WITH HORIZONTAL BAR<VERTICAL BAR",
   "uWITHIN TRIANGLE ARROWHEADoDOUBLE ARROW! ON PEDESTALbRANUSbSaVAI COMMAeDIGIT EIGHTkFIVElOUR",
   "kNINEkONEkSEVENlIXkTHREElWOkZEROeFULL STOPeQUESTION MARKeSYLLABLE AoNnBAoEpEoHApEqEpIpOqOpUoI",
   "oOpOoUnCAoEpEoIoOpOoUnDAoEpEoHApEqEpHAqErEqIqOrOqUpIpOqOpUoIoOpOoUnEoEpNoNnFAoEpEoIoOpOoUnGA",
   "oBApEqEqNpIpOqNqOpUoEpEpNoIoOpOoUnHApNoEpEpNoIpNoOpNpOoUpNnIoNnJAoEpEoIoOpOoUnKApNoEpEoIoOpO",
   "oPAqNpEqEqNpIpOqOpUoUnLAoEpEpNGTHENERoIoOpOoUnMAoBApEqEpIpOqOpUoEpEoGBAqErEqIqOrOqUoIoOpOoUnNA",
   "oDApEqEpIpOqLE DOtFAtKAtMAtSOOqOpUoEpEoGpANpENpGAqErErNqIqOrOqUpONoIoJApEqEpIpOqOpUoOpOoUoYApE",
   "qEpIpOqOpUnOoNoOpNnPAoEpEoIoOpOoUnRAoEpEoIoOpOoUnSAoEpEoHApEqEpIpOqOpUoIoOpOoUnTAoEpEoHApEqEpI",
   "pOqOpUoIoOpOoUnUoNnVAoEpEoIoOpOoUnWApNoEpEqNpNoIpNoOpNpOqNoUpNnYAoEpEoIoOpOoUnZAoEpEoHApEqEpI",
   "pOqOpUoIoOpOoUgMBOL BANGlDANGmO-OnONGlFAAmEENGlJONGlKEENGmUNGlNIIlTAAmINGmONGcMPIRE",
   "cRIATION SELECTOR-1u0v0v1v2v3v4v5v6v7v8v9u1v0v1v2v3v4v5v6v7v8v9u2v0v1v2v3v4v5v6v7v8v9u3v0v1v2",
   "v3v4v5v6v7v8v9u4v0v1v2v3v4v5v6v7v8v9u5v0v1v2v3v4v5v6v7v8v9u6v0v1v2v3v4v5v6v7v8v9u7v0v1v2v3v4v5",
   "v6v7v8v9u8v0v1v2v3v4v5v6v7v8v9u9v0v1v2v3v4v5v6v7v8v9t2u0v0v1v2v3v4v5v6v7v8v9u1v0v1v2v3v4v5v6v7",
   "v8v9u2v0v1v2v3v4v5v6v7v8v9u3v0v1v2v3v4v5v6v7v8v9u4v0v1v2v3v4v5v6v7v8v9u5v0v1v2v3v4v5v6u6u7u8u9",
   "t3u0u1u2u3u4u5u6u7u8u9t4u0u1u2u3u4u5u6u7u8u9t5u0u1u2u3u4u5u6u7u8u9t6u0u1u2u3u4u5u6u7u8u9t7u0u1",
   "u2u3u4u5u6u7u8u9t8u0u1u2u3u4u5u6u7u8u9t9u0u1u2u3u4u5u6u7u8u9bECTOR OR CROSS PRODUCT",
   "cDIC SIGN ANUSVARA ANTARGOMUKHAuBAHIRGOMUKHAuUBHAYATO MUKHAuVAMAGOMUKHA* WITH TAILmRDHAVISARGA",
   "mTIKRAMAlDOUBLE ANUSVARA ANTARGOMUKHAlHEXIFORM LONG ANUSVARAlJIHVAMULIYAlLONG ANUSVARA",
   "lNIHSHVASAlREVERSED VISARGA ANUDATTA$UDATTAmOTATED ARDHAVISARGAmTHANG LONG ANUSVARAlTIRYAK",
   "lUPADHMANIYAlVISARGA ANUDATTA# WITH TAILtSVARITAtUDATTAz WITH TAILlYAJURVEDIC MIDLINE SVARITA",
   "gTONE ATHARVAVEDIC INDEPENDENT SVARITAlCANDRA ABOVEsBELOWlDOT BELOWnUBLE RING ABOVEsSVARITA",
   "lKARSHANAnTHAKA ANUDATTAlPRENKHAlRIGVEDIC KASHMIRI INDEPENDENT SVARITAnNG ABOVElSHARA",
   "lTHREE DOTS BELOWmRIPLE SVARITAmWO DOTS BELOWlYAJURVEDIC AGGRAVATED INDEPENDENT SVARITA",
   "wINDEPENDENT SVARITAwKATHAKA INDEPENDENT SVARITA)TA SCHROEDERcRSICLE",
   "dTICAL BAR BESIDE RIGHT TRIANGLEnDOUBLE LEFT TURNSTILEnTRIPLE RIGHT TURNSTILE",
   "nWITH HORIZONTAL STROKEjELLIPSISjFOUR DOTSjIDEOGRAPHIC ITERATION MARKjKANA REPEAT MARK",
   "z LOWER HALF!UPPER HALFvWITH VOICED SOUND MARK_ UPPER HALFjLINEn EXTENSIONoWITH CIRCLE ABOVE",
   "!BELOWtMIDDLE DOTjMALE WITH STROKE SIGNjONE EIGHTH BLOCK-2!3!4!5!6!7jSIX DOTSjTAB KEYmULATION",
   "t SETkILDEkRAFFIC LIGHTjZIGZAG LINEdY BOLD GREEK CROSSfHEAVY EIGHT POINTED BLACK STAR",
   "rSPOKED ASTERISKlFIVE SPOKED ASTERISKlGREEK CROSSlREVERSE SOLIDUSlSALTIREmIX SPOKED ASTERISK",
   "mOLIDUSlWHITE CIRCLErSQUAREfMUCH GREATER-THANkLESS-THANcSTAbIBRATION MODEcCTORY HAND",
   "cDEO CAMERAgGAMEfCASSETTEcETNAMESE ALTERNATE READING MARK CA.NHAYdWDATA SQUAREcOLINcRGO",
   "cTHKUQI CAPITAL LETTER AyBBEzEyCEzHEyDEzHEyEzIyFEyGAyHAzHAyIzJEyJEyKAyLAzLAyMEyNEzJEyOyPEyQA",
   "yREySEzHEyTEzHEyUyVEyXEyYyZEjSMALL LETTER AwBBExEwCExHEwDExHEwExIwFEwGAwHAxHAwIxJEwJEwKAwLAxLA",
   "wMEwNExJEwOwPEwQAwREwSExHEwTExHEwUwVEwXEwYwZEbOIDED GREEK CROSScLCANOdLEYBALLdUME INTEGRALbS1",
   "d0e0e1e2e3e4e5e6e7e8e9d1e0e1e2e3e4e5e6e7e8e9d2e0e1e2e3e4e5e6e7e8e9d3e0e1e2e3e4e5e6e7e8e9d4e0e1",
   "e2e3e4e5e6e7e8e9d5e0e1e2e3e4e5e6e7e8e9d6e0e1e2e3e4e5e6e7e8e9d7e0e1e2e3e4e5e6e7e8e9d8e0e1e2e3e4",
   "e5e6e7e8e9d9e0e1e2e3e4e5e6e7e8e9c2d0e0e1e2e3e4e5e6e7e8e9d1e0e1e2e3e4e5e6e7e8e9d2e0e1e2e3e4e5e6",
   "e7e8e9d3e0e1e2e3e4e5e6e7e8e9d4e0e1e2e3e4e5e6e7e8e9d5e0e1e2e3e4e5e6d6d7d8d9c3d0d1d2d3d4d5d6d7d8",
   "d9c4d0d1d2d3d4d5d6d7d8d9c5d0d1d2d3d4d5d6d7d8d9c6d0d1d2d3d4d5d6d7d8d9c7d0d1d2d3d4d5d6d7d8d9c8d0",
   "d1d2d3d4d5d6d7d8d9c9d0d1d2d3d4d5d6d7d8d9bTcSbULCANUSdGAR FRACTION FIVE EIGHTHSvSIXTHS",
   "rOUR FIFTHSqONE EIGHTHuFIFTHuHALFuNINTHuQUARTERuSEVENTHvIXTHuTENTHvHIRDqSEVEN EIGHTHS",
   "qTHREE EIGHTHSwFIFTHSwQUARTERSrWO FIFTHSuTHIRDSqZERO THIRDSaWAFFLEcNCHO DIGIT EIGHTnFIVEoOUR",
   "nNINEnONEnSEVENoIXnTHREEoWOnZEROhLETTER ApAqNrGpNGpUoBAoCAoDAoEpNoFAoGAoHAoIpNGoJAoKApHAoLA",
   "pLHAoMAoNApGApYAoOpNqGoPApHAoRAoSApHAoTApHApRApSAoUpENoVAoWAoYApIHoZAhNGUN SIGNhTONE KOIpNI",
   "mTUPpNIdING CRESCENT MOON SYMBOLhGIBBOUS MOON SYMBOLcRANG CITI CAPITAL LETTER A$M$NG$T#BU#DA#E",
   "$NN%Y#GA#HAR$IYO$OLO%RR#II#KO#NGAA$UNG#O$DD#PU#SII$SUU#TTE#UC$U#VIYO#WI#YA$O$U%JmDIGIT EIGHT",
   "sFIVEtOURsNINEsONEsSEVENtIXsTHREEtWOsZEROmNUMBER EIGHTYtFIFTYuORTYtNINETYtSEVENTYuIXTYtTEN",
   "uHIRTYuWENTYmOMmSMALL LETTER A!M!NG!TzBUzDAzE!NN#YzGAzHAR!IYO!OLO#RRzIIzKOzNGAA!UNGzO!DDzPU",
   "zSII!SUUzTTEzUC!UzVIYOzWIzYA!O!U#JdNING SIGNcSTEBASKETcTCHdER BUFFALOgCLOSETgPOLOgWAVEfMELON",
   "cVE ARROW POINTING DIRECTLY LEFT%RIGHTfDASHdING BLACK FLAGhHAND SIGNhWHITE FLAGdY DASHfLINE",
   "gOW LINEfOVERLINEcXING CRESCENT MOON SYMBOLhGIBBOUS MOON SYMBOLbEARY CAT FACEgFACEcDDING",
   "dGE-TAILED RIGHTWARDS ARROWcIERSTRASS ELLIPTIC FUNCTIONdGHT LIFTERcST SYRIAC CROSSbHALEcEEL",
   "f OF DHARMAfCHAIR SYMBOLcITE ARROW SHAFT WIDTH ONEyTWO THIRDSgBULLETgCHESS BISHOP",
   "s ROTATED NINETY DEGREES#TWO HUNDRED SEVENTY DEGREESmEQUIHOPPERw ROTATED NINETY DEGREESmKING",
   "q ROTATED NINETY DEGREESzTWO HUNDRED SEVENTY DEGREESnNIGHTs ROTATED FORTY-FIVE DEGREES",
   "#NINETY DEGREES#ONE HUNDRED THIRTY-FIVE DEGREES#THREE HUNDRED FIFTEEN DEGREES",
   "$WO HUNDRED SEVENTY DEGREES>TWENTY-FIVE DEGREESs-BISHOPtQUEENtROOKmPAWN",
   "q ROTATED NINETY DEGREESzTWO HUNDRED SEVENTY DEGREESmQUEENr ROTATED NINETY DEGREES",
   "!TWO HUNDRED SEVENTY DEGREESmROOKq ROTATED NINETY DEGREESzTWO HUNDRED SEVENTY DEGREES",
   "mTURNED BISHOPtKINGuNIGHTtPAWNtQUEENtROOKhIRCLEm CONTAINING BLACK SMALL CIRCLEnWITH DOT RIGHT",
   "uWN ARROWsLOWER LEFT QUADRANTyRIGHT QUADRANTsTWO DOTSsUPPER LEFT QUADRANTyRIGHT QUADRANT",
   "hLUB SUIThONCAVE-SIDED DIAMOND# WITH LEFTWARDS TICK,RIGHTWARDS TICKgDIAMOND",
   "n CONTAINING BLACK MEDIUM DIAMOND*SMALL DIAMOND*VERY SMALL DIAMONDoIN SQUAREoSUIT",
   "oWITH CENTRED DOThOWN POINTING BACKHAND INDEXuINDEXuLEFT HAND INDEXk-POINTING SMALL TRIANGLE",
   "uTRIANGLEhRAUGHTS KINGpMANgEXCLAMATION MARK ORNAMENTgFLAGk WITH HORIZONTAL MIDDLE BLACK STRIPE",
   "iORETTEjWERhOUR POINTED CUSPtSTARhROWNING FACEgHARD SHELL FLOPPY DISKhEARTl SUITjVY CHECK MARK",
   "mSALTIRE WITH ROUNDED CORNERSiXAGONhORIZONTAL ELLIPSEiURGLASSgLARGE SQUAREiTIN CROSS",
   "hEFT LANE MERGElPOINTING BACKHAND INDEXuINDEXk-POINTING POINTERuSMALL TRIANGLEuTRIANGLE",
   "hOZENGE CONTAINING BLACK SMALL LOZENGEgMEDIUM DIAMONDnLOZENGEnSMALL SQUAREoQUAREoTAR",
   "hOON SELENAgNIBgPARALLELOGRAMhENNANTjTAGONgQUESTION MARK ORNAMENTgRECTANGLE",
   "hIGHT POINTING BACKHAND INDEXvINDEXl-POINTING PENTAGONwOINTERvSMALL TRIANGLEvTRIANGLEgSCISSORS",
   "hESAME DOThHOGI PIECEhMALL LOZENGEmSQUAREnTARiILING FACEhPADE SUIThQUAREm BUTTON",
   "nCONTAINING BLACK MEDIUM SQUARE&SMALL SQUARE&VERY SMALL SQUAREnWITH CENTRE VERTICAL LINE",
   "sLEFTWARDS TICKtOWER LEFT QUADRANTyRIGHT QUADRANTsRIGHTWARDS TICKtOUNDED CORNERS",
   "sUPPER LEFT QUADRANTyRIGHT QUADRANTsVERTICAL BISECTING LINEhTARhUNj BEHIND CLOUDw WITH RAIN",
   "kWITH RAYSpSMALL CLOUDgTELEPHONEhOUCHTONE TELEPHONEhRAPEZIUM",
   "iIANGLE CONTAINING SMALL WHITE TRIANGLEhWO-WAY LEFT WAY TRAFFICgUP POINTING BACKHAND INDEX",
   "sINDEXi-POINTING CHEVRONsSMALL TRIANGLEsTRIANGLE! WITH DOTgVERTICAL BARpELLIPSEpRECTANGLE",
   "jY SMALL SQUAREf-FEATHERED RIGHTWARDS ARROWbIDE-HEADED DOWNWARDS BARB ARROWwHEAVY BARB ARROW",
   "wLIGHT BARB ARROWwMEDIUM BARB ARROWwVERY HEAVY BARB ARROWmLEFTWARDS BARB ARROW",
   "wHEAVY BARB ARROWwLIGHT BARB ARROWwMEDIUM BARB ARROWwVERY HEAVY BARB ARROW",
   "mNORTH EAST BARB ARROWxHEAVY BARB ARROWxLIGHT BARB ARROWxMEDIUM BARB ARROW",
   "xVERY HEAVY BARB ARROWsWEST BARB ARROWxHEAVY BARB ARROWxLIGHT BARB ARROWxMEDIUM BARB ARROW",
   "xVERY HEAVY BARB ARROWmRIGHTWARDS BARB ARROWxHEAVY BARB ARROWxLIGHT BARB ARROW",
   "xMEDIUM BARB ARROWxVERY HEAVY BARB ARROWmSOUTH EAST BARB ARROWxHEAVY BARB ARROW",
   "xLIGHT BARB ARROWxMEDIUM BARB ARROWxVERY HEAVY BARB ARROWsWEST BARB ARROWxHEAVY BARB ARROW",
   "xLIGHT BARB ARROWxMEDIUM BARB ARROWxVERY HEAVY BARB ARROWmUPWARDS BARB ARROWuHEAVY BARB ARROW",
   "uLIGHT BARB ARROWuMEDIUM BARB ARROWuVERY HEAVY BARB ARROWcGGLY VERTICAL LINEcLTED FLOWER",
   "cND BLOWING FACEfCHIMEeOWdE GLASSdKING FACEcRED KEYBOARDbJbOLF FACEcMANf WITH BUNNY EARS",
   "fS BOOTShCLOTHEShHAThSANDALdENS SYMBOLcN SIGNcODcRD JOINERfSEPARATOR MIDDLE DOTdLD MAPdM",
   "dRIED FACEbRAPPED PRESENTcEATH PRODUCTdNCHdSTLERScITING HANDaX IN A RECTANGLE BOXb-RAY",
   "bIANGQI BLACK CANNONpHARIOToELEPHANToGENERALoHORSEoMANDARINoSOLDIERiRED CANNONnHARIOTmELEPHANT",
   "mGENERALmHORSEmMANDARINmSOLDIERbORaYAWNING FACEbELLOW HEARTcN SIGNcZIDI COMBINING HAMZA MARK",
   "rMADDA MARKhHYPHENATION MARKhLETTER BEoCHHIMqIMpIMoDADqLoELIFpTpWpYNoFAoGAFoHAYpHAoJAoKAFpHAF",
   "oLAMr WITH DOT ABOVEoMIMoNUNoOWoPEpHEoQAFoRApHAoSADpEpHINpINoTApHEoUMoVAq ALTERNATE FORMoWAW",
   "oXApHEYNoYOTr WITH CIRCUMFLEX ABOVEoZAqLpEbI RADICAL BBUTmURlCHEmIPmUOPmYnPnTlDDURmUlGAmEPmGOP",
   "nUOmOTlHMOmXITnOPnUOlJJIEnUTnYmOlKEmITlLInEmYRlMImOPlNBIEmYIPnOPmZUPlOPlPUTmYTlQOTlSHATnOPnUR",
   "nYmSIlTATmUlVEPmURlWOlYITmOlZAmOTmUPnRmZIETdSYLLABLE AnPnTnXmBAoPoToXnBApPpTpXoEpPpXoIpEqPqTqX",
   "pPpTpXoOpPpTpXoUpOqPqXpPpRqXpTpXoYpPpTpXnEoPoXnIoEpPpTpXoPoToXnOoPoToXnUoOpPpXoPoRpXoToXnYoPoR",
   "pXoToXmCAoPoToXnEoPoXnHApPpTpXoEpPpTpXoOpPpTpXoUpOqPqTqXpPpRqXpXoYpPpRqXpTpXnIoEpPpTpXoPoToXnO",
   "oPoToXnUoOpPpXoPoRpXoToXnYoPoRpXoToXmDAoPoToXnDApPpTpXoEpPpXoIpEqPqXpPpTpXoOpPpTpXoUpOqPqXpPpR",
   "qXpTpXnEoPoXnIoEpPpXoPoToXnOoPoToXnUoOpXoPoRpXoToXmEnXmFAoPoToXnIoPoToXnOoPoXnUoPoRpXoToXnYoP",
   "oToXmGAoPoToXnEoPoToXnGApPpTpXoEpPpTpXoIpEqPqXpTpXoOpPpTpXoUpOqPqTqXpPpRqXpTpXnIoEpPpTpXoPoToX",
   "nOoPoToXnUoOpPpTpXoPoRpXoToXmHAoPoToXnEoPoXnIEpXoTnLApPpTpXoEpPpXoIpEqPqXpPpTpXoOpPpXoUpOqPqX",
   "pPpRqXpTpXoYpPpRqXpTpXnMApPpTpXoIpEqPqXpPpTpXoOpPpTpXoUpOqPqXpPpRqXpTpXoYpPpRqXpXnNApPpTpXoEpP",
   "pXoIpEqPqTqXpPpTpXoOPpTpXoUOqXpTnOoPoToXnUOpPpTpXnXApPpTpXoEpPpXoIpEqPqTqXpPpTpXoOpPpTpXoUOqP",
   "qTqXmInEoPoToXnPnToERATION MARKnXmJIoEpPpTpXoPoToXnJIpEqPqTqXpPpTpXoOpPpTpXoUpOqPqXpPpRqXpTpX",
   "oYpPpTpXnOoPoToXnUoOpPpTpXoPoRpXoToXnYoPoRpXoToXmKAoPoToXnEoPoToXnIoEpPpXoPoToXnOoPoToXnUoOpP",
   "pXoPoRpXoToXmLAoPoToXnEoPoXnIoEpPpTpXoPoToXnOoPoToXnUoOpPpTpXoPoRpXoToXnYoPoRpXoToXmMAoPoToXnE",
   "oXnGApPpTpXoEpPpXoIEqXoOpPpTpXoUpOqPqXpPpRqXpTpXnIoEpPpXoPoToXnOoPoToXnUoOpPpTpXoPoRpXoToXnYoP",
   "oToXmNAoPoXnBApPpTpXoIpEqPqXpPpTpXoOpPpTpXoUpPpRqXpTpXoYpPpRqXpTpXnDApPpTpXoEpPpXoIpEqXpPpTpX",
   "oOpPpTpXoUpPpRqXpTpXnEoPoXnGApPpTpXoEpPpXoIEqPqXoOpPpTpXoUOqTqXnIoEpPpXoPoToXnJIpEqPqTqXpPpTpX",
   "oOpPpTpXoUpOqXpPpRqXpXoYpPpRqXpTpXnOoPoToXnRApPpTpXoEpPpTpXoOpPpXoUpPpRqXpTpXoYpPpRqXpTpXnUoO",
   "pPpXoPoRpXoToXnYIpEqPqTqXpPpTpXoOpPpTpXoUpOqPqXpPpTpXnZApPpTpXoEpXoIpEqPqXpPpTpXoOPpXoUpOqXpP",
   "pRqXpXoYpPpRqXpTpXmOnPnTnXmPAoPoToXnIoEpPpXoPoToXnOoPoToXnUoOpPpXoPoRpXoToXnYoPoRpXoToXmQIoEpP",
   "pTpXoPoToXnOoPoToXnUoOpPpTpXoPoRpXoToXnYoPoRpXoToXmRAoPoToXnEoPoXnOoPoToXnRApXoEpPpTpXoOpPpTpX",
   "oUpOqXpPpRqXpTpXoYpPpRqXpTpXnUoOpPpXoPoRpXoToXnYoPoRpXoToXmSAoPoToXnEoPoXnHApPpTpXoEpPpTpXoOpP",
   "pTpXoUpOqPqXpPpRqXpTpXoYpPpRqXpTpXnIoEpPpXoPoToXnOoPoToXnSApPpTpXoEpPpXoIpEqPqXpPpTpXoOpPpTpX",
   "oUpPpTpXoYpPpRqXpTpXnUoOpPpXoPoRpXoToXnYoPoRpXoToXmTAoPoToXnEoPoXnIoEpPpXoPoToXnOoPoToXnUoOpP",
   "pTpXoPoRpXoToXmUOoPoXmVAoPoToXnEPoXnIoEpPpTpXoPoToXnOoPoToXnUoPoRpXoToXnYoPoRpXoToXmWAoPoToXnE",
   "oPoXnOoPoXnUoOpPpXmXIoEpPpTpXoPoToXnOoPoToXnUOpXnYoPoRpXoToXmYIoEpPpTpXoPoToXnOoPoToXnUoOpPpT",
   "pXoPoRpXoToXnYoPoRpXoToXmZAoPoToXnEoPoXnHApPpTpXoEpPpTpXoOpPpTpXoUpOqPqXpPpRqXpTpXoYpPpRqXpTpX",
   "nIoEpPpXoPoToXnOoPoToXnUoOpPpXoPoRpXoToXnYoPoRpXoToXnZApPpTpXoEpPpXoIpEqPqTqXpPpTpXoOpPpXoUpP",
   "pRqXpXoYpPpRqXpTpXcN YANGbO-YOaZ NOTATION BAG MEMBERSHIPlDOMAIN ANTIRESTRICTION",
   "lLEFT BINDING BRACKETqIMAGE BRACKETlRANGE ANTIRESTRICTIONmELATIONAL COMPOSITION",
   "mIGHT BINDING BRACKETrIMAGE BRACKETlSCHEMA COMPOSITIONsPIPINGtROJECTIONmPOTlTYPE COLON",
   "bANABAZAR SQUARE CLOSING DOUBLE-LINED HEAD MARKzHEAD MARKtUSTER-FINAL LETTER LA=RA=VA=YA",
   "zINITIAL LETTER RArFINAL CONSONANT MARKrINITIAL DOUBLE-LINED HEAD MARKzHEAD MARKrLETTER -AyA",
   "yBAzHAyCAzHAyDAzDA!HAzHAzZA!HAyGAzHAyHAyJAyKAzHAzSSAyLAyMAyNAzGAzNAzYAyPAzHAyRAySAzHAzSAyTAzHA",
   "zSA!HAzTA!HAyVAyYAyZAzHArMARK DOUBLE SHADwLONG TSHEGwSHADwTSHEGrSIGN ANUSVARA",
   "wCANDRA WITH ORNAMENT$BINDU, WITH ORNAMENTwVIRAMAySARGAsUBJOINERrVOWEL LENGTH MARKxSIGN AI%U$E",
   "$I$O%E$REVERSED I$U%EbEBRA FACEcRO WIDTH JOINERlNO-BREAK SPACEnN-JOINERlSPACEcUS",
   "bIPPER-MOUTH FACEbNAMENNY COMBINING ATTACHING VERTICAL OMETtLOWER TONAL RANGE INDICATOR",
   "tMARK BORZAYAyCHASHKA* POLNAYAzURVED OMETyDEMESTVENNY ZADERZHKAzVOETOCHIE",
   "yGORAZDO NIZKO ON LEFT@RIGHT=S KRYZHEM ON LEFT) ON RIGHT+VYSOKOyKACHKAzRYZH% ON LEFTzUPNAYA",
   "yLOMKAyMALO POVYSHE ON LEFT?RIGHT<S KHOKHLOM ON LEFT) ON RIGHT?RYZHEM=TRANNOyNIZKO ON LEFT",
   ",RIGHT&S KRYZHEM ON LEFT_RIGHTyOBLACHKOzNzTSECHKAyPODCHASHIE. WITH VERTICAL STROKE#VERTKA",
   "!VYSHE ON LEFT:RIGHT+S KHOKHLOM ON LEFT(RIGHT:RYZHEM,TRANNOyRAVNO!ZSEKAySKOBAzOROCHYA NOZHKA",
   "zREDNE ON LEFT.RIGHTzTRANNO MALO POVYSHEyTIKHAYAzOCHKAzSATA ON LEFT,RIGHT&S KRYZHEMyUDARKA",
   "yVYSOKO ON LEFT.RIGHT*S KHOKHLOM ON LEFT~RIGHT.RYZHEMyZADERZHKAzELO!VOK",
   "tTONAL RANGE MARK MRACHNO;SVETLO;TRESVETLOjNEUME CHASHKArELYUSTKApDEMESTVENNY KLYUCHrRBITSA",
   "qOUBLE ZAPYATAYAqUDAqVA V CHELNUpFITApGOLUBCHIK BORZYzMRACHNYzSVETLYzTIKHY!RESVETLYpKHAMILO",
   "qLYUCHqOBYLAqRYUKu TIKHYsZHqUFISMApMECHIKv KLYUCHENEPOSTOYANNY%POVODNY%VOYwPOVODNYpNEMKA",
   "pOBLAKOqSOKAu KLYUCHEVAYA NEPOSTOYANNAYA,SVETLAYAwRYUKOVAYA SVETLAYAvSVETLAYAvTRESVETLAYA",
   "pPALKArRAKLITrUKqEREVODKAy NEPOSTOYANNAYAqODCHASHIErLKULIZMYpREVERSED CHELYUSTKAqOG",
   "pSKAMEYTSA DVOECHELNAYA KLYUCHEVAYA=NEPOSTOYANNAYA=PROSTAYA=SVETLAYAzKLYUCHENEPOSTOYANNAYA",
   "+VAYA SVETLAYA<TIKHAYAzMRACHNAYAzSVETLAYAzTIKHAYA!RESVETLAYAqLOZHITIEy S KRYZHEM#ZAPYATOY",
   "zZAKRYTOEqTATYAv NEPOSTOYANNAYAwS DVUMYA ZAPYATYMIyKRYZHEM* I ZAPYATOYyROGOMyZAPYATOY",
   "+ I KRYZHEM:PODCHASHIEMwZAKRYTAYA* S ZAPYATOYrOPITSAx S OCHKOMyWITH SOROCHYA NOZHKA",
   "rRELA DVOECHELNAYA. KLYUCHEVAYA*OKRYZHEVAYA+POVODNAYA@ KLYUCHEVAYAwGROMNAYA",
   "& WITH SINGLE ZAPYATAYA!OKRYZHEVAYA< POVODNAYA#POVODNAYA; WITH DOUBLE ZAPYATAYA",
   "^SINGLE ZAPYATAYAwKLYUCHENEPOSTOYANNAYA%POVODNAYAxRYUKOVAYA+ GROMNAYA@ WITH SINGLE ZAPYATAYA",
   "<OKRYZHEVAYA)A POVODNAYA=POVODNAYA) WITH DOUBLE ZAPYATAYA) WITH SINGLE ZAPYATAYA,POVODNAYA",
   ",TRYASKAzZHEVAYAwMRACHNOTIKHAYAwNEPOSTOYANNAYAwPOLUPOVODNAYAyVODNAYAxROSTAYAwTIKHAYA PUTNAYA",
   "xRYASOGLASNAYA$POVODNAYA$STRELNAYApVRAKHIYA KLYUCHEVAYA MRACHNAYA;PROSTAYA;SVETLAYA",
   ";TRESVETLAYAyMRACHNAYAyPROSTAYAySVETLAYAyTRESVETLAYApZANOZHEKrPYATAYAqMEYTSA",
   "jPRIZNAK MODIFIER DIRECTION FLIP!KRYZH!LEVEL-2+3!ROGbOMBIEbWJcNBSPdJcSP"]

end LoadBinding.Text
